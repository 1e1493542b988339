import Metering.Proofs.Time.Labels

/-!
# The written form of a key

A key is written as four fields with colons between them. Digits and acceptable tags hold no colon,
so the fields are found again, and each of them is read back. More is read than is written: a number
may have a plus sign and zeros in front. What has been read can be written and read once more.

Results:
1. `Key.decode_eq_ok_iff`: a key is read field by field.
2. `Key.decode_encode`: what is written is read back.
3. `Key.codec_faithful`: which keys come back, and which texts are keys.
-/

namespace Metering

open Decimal (AreDigits value)

/-! ## Fields -/

theorem colonFields_eq_splitOn (cs : List Char) : colonFields cs = cs.splitOn ':' := by
  fun_induction colonFields cs with
  | case1 => rfl
  | case2 rest ih => rw [List.splitOn_cons_eq_if_modifyHead, ih]; rfl
  | case3 c rest other empty ih => exact absurd (ih.symm.trans empty) (List.splitOn_ne_nil _ _)
  | case4 c rest other field fields parts ih =>
    rw [List.splitOn_cons_eq_if_modifyHead, if_neg (by simpa using other), ← ih, parts]
    rfl

theorem colon_notMem_of_mem_colonFields {cs field : List Char} (member : field ∈ colonFields cs) :
    ':' ∉ field := by
  fun_induction colonFields cs generalizing field with
  | case1 =>
    rw [List.mem_singleton.1 member]
    exact List.not_mem_nil
  | case2 rest ih =>
    obtain rfl | member := List.mem_cons.1 member
    · exact List.not_mem_nil
    · exact ih member
  | case3 c rest other empty ih =>
    rw [List.mem_singleton.1 member, List.mem_singleton]
    exact fun same => other same.symm
  | case4 c rest other first fields parts ih =>
    obtain rfl | member := List.mem_cons.1 member
    · have clean := ih (parts ▸ List.mem_cons_self)
      exact List.not_mem_cons_of_ne_of_not_mem (fun same => other same.symm) clean
    · exact ih (parts ▸ List.mem_cons_of_mem _ member)

/-- The fields of a text have no colon, and make the text with colons between them. -/
theorem map_colonFields_eq_iff {text : String} {fields : List String} (ne : fields ≠ []) :
    (colonFields text.toList).map String.ofList = fields ↔
      (∀ field ∈ fields, ':' ∉ field.toList) ∧ text = ":".intercalate fields := by
  constructor
  · rintro rfl
    constructor
    · intro field member
      obtain ⟨chars, found, rfl⟩ := List.mem_map.1 member
      rw [String.toList_ofList]
      exact colon_notMem_of_mem_colonFields found
    · rw [← String.toList_inj, String.toList_intercalate, List.map_map, colonFields_eq_splitOn]
      have same : String.toList ∘ String.ofList = id := funext fun _ => String.toList_ofList
      rw [same, List.map_id]
      exact (List.intercalate_splitOn ':').symm
  · rintro ⟨apart, rfl⟩
    have parts : (fields.map String.toList).map String.ofList = fields := by
      simp [Function.comp_def]
    rw [String.toList_intercalate, colonFields_eq_splitOn]
    refine (congrArg _ (List.splitOn_intercalate ':' ?_ ?_)).trans parts
    · simpa using apart
    · simpa using ne

/-! ## What a field may hold -/

/-- Ten digits that name a date of the calendar and an hour of the day. -/
def IsLabel (text : String) : Prop := ∃ year month day hours : List Char,
  text.toList = year ++ (month ++ (day ++ hours)) ∧
    (AreDigits year ∧ AreDigits month ∧ AreDigits day ∧ AreDigits hours) ∧
    (year.length = 4 ∧ month.length = 2 ∧ day.length = 2 ∧ hours.length = 2) ∧
    Date.isValid ⟨value year, value month, value day⟩ = true ∧ value hours < 24

/-- Digits of a number of 64 bits, which may have a plus sign in front. -/
def IsWord (text : String) : Prop := ∃ digits,
  (text.toList = digits ∨ text.toList = '+' :: digits) ∧
    (digits ≠ [] ∧ AreDigits digits) ∧ value digits < 2 ^ 64

/-- One to 32 bytes, without colons, white space and control characters. -/
def IsTag (text : String) : Prop := (1 ≤ text.utf8ByteSize ∧ text.utf8ByteSize ≤ 32) ∧
  ∀ c ∈ text.toList, c ≠ ':' ∧ isBlank c = false ∧ isControl c = false

theorem exists_parseBucket_iff (z : Zone) {text : String} :
    (∃ b, z.parseBucket text = .ok b) ↔ IsLabel text := by
  simp only [Zone.parseBucket_eq_ok_iff, Zone.bucket?_eq_ok_iff_parts]
  constructor
  · rintro ⟨b, year, month, day, hours, parts, digits, lengths, named, rfl⟩
    exact ⟨year, month, day, hours, parts, digits, lengths, named⟩
  · rintro ⟨year, month, day, hours, parts, digits, lengths, named⟩
    exact ⟨_, year, month, day, hours, parts, digits, lengths, named, rfl⟩

theorem Decimal.exists_word?_iff {text : String} : (∃ n, word? text = some n) ↔ IsWord text := by
  unfold word?
  simp only [Option.map_eq_some_iff, unsigned?_eq_some_iff]
  constructor
  · rintro ⟨_, n, ⟨digits, sign, number, rfl, fits⟩, -⟩
    exact ⟨digits, sign, number, by omega⟩
  · rintro ⟨digits, sign, number, fits⟩
    exact ⟨_, _, ⟨digits, sign, number, rfl, by omega⟩, rfl⟩

theorem Decimal.word?_repr (n : Id) : word? (Nat.repr n.toNat) = some n := by
  unfold word?
  rw [unsigned?_repr (by have := n.toNat_lt; omega), Option.map_some, UInt64.ofNat_toNat]

namespace ResourceType

theorem fault?_eq_none_iff {tag : String} : fault? tag = none ↔ IsTag tag := by
  have filled : tag = "" ↔ tag.utf8ByteSize = 0 := String.utf8ByteSize_eq_zero_iff.symm
  have most : maxTypeBytes = 32 := rfl
  unfold fault? IsTag
  simp only [ite_eq_iff, reduceCtorEq, and_false, false_or, and_true, List.contains_iff_mem,
    List.any_eq_true, Bool.or_eq_true, filled, most]
  constructor
  · rintro ⟨filled, short, apart, plain⟩
    refine ⟨⟨Nat.pos_of_ne_zero filled, Nat.not_lt.1 short⟩, fun c member => ⟨?_, ?_, ?_⟩⟩
    · rintro rfl
      exact apart member
    · exact Bool.eq_false_iff.2 fun blank => plain ⟨c, member, .inl blank⟩
    · exact Bool.eq_false_iff.2 fun control => plain ⟨c, member, .inr control⟩
  · rintro ⟨⟨filled, short⟩, clean⟩
    refine ⟨Nat.ne_of_gt filled, Nat.not_lt.2 short, fun member => (clean _ member).1 rfl, ?_⟩
    rintro ⟨c, member, blank | control⟩
    · exact Bool.eq_false_iff.1 (clean c member).2.1 blank
    · exact Bool.eq_false_iff.1 (clean c member).2.2 control

theorem parse_eq_ok_iff {tag : String} {type : ResourceType} :
    parse tag = .ok type ↔ IsTag tag ∧ type = ofTag tag := by
  rw [← fault?_eq_none_iff]
  unfold parse
  cases fault? tag with
  | none => simp [eq_comm]
  | some why => simp

/-- A type that was read is read again from its tag. -/
theorem parse_tag {tag : String} {type : ResourceType} (read : parse tag = .ok type) :
    parse type.tag = .ok type := by
  obtain ⟨-, rfl⟩ := parse_eq_ok_iff.1 read
  rw [tag_ofTag]
  exact read

end ResourceType

namespace Key

variable {z : Zone} {key : Key} {text : String}

theorem decodeId_eq_ok_iff {field digits : String} {id : Id} :
    decodeId field digits text = .ok id ↔ Decimal.word? digits = some id := by
  unfold decodeId
  cases Decimal.word? digits <;> simp

/-- A key is read field by field. -/
theorem decode_eq_ok_iff : decode z text = .ok key ↔ ∃ label subscription tag resource : String,
    ((∀ field ∈ [label, subscription, tag, resource], ':' ∉ field.toList) ∧
      text = ":".intercalate [label, subscription, tag, resource]) ∧
    z.parseBucket label = .ok key.bucket ∧
    Decimal.word? subscription = some key.subscription ∧
    ResourceType.parse tag = .ok key.type ∧
    Decimal.word? resource = some key.resource := by
  simp only [← map_colonFields_eq_iff (List.cons_ne_nil _ _)]
  unfold decode
  constructor
  · intro read
    split at read
    · next label subscription tag resource fields =>
      refine ⟨label, subscription, tag, resource, fields, ?_⟩
      simp only [bind_eq_ok_iff, decodeId_eq_ok_iff] at read
      obtain ⟨bucket, hb, id, hs, type, ht, number, hr, same⟩ := read
      cases same
      exact ⟨hb, hs, ht, hr⟩
    · cases read
  · rintro ⟨label, subscription, tag, resource, fields, hb, hs, ht, hr⟩
    rw [fields]
    simp only [bind_eq_ok_iff, decodeId_eq_ok_iff]
    exact ⟨_, hb, _, hs, _, ht, _, hr, rfl⟩

/-! ## Round trip -/

/-- A key of a zone that can be written so that it is found again: its hour lies in a year of four
digits and its type was read from a tag. -/
structure IsWritable (z : Zone) (key : Key) : Prop where
  zone : key.bucket.zone = z
  year : key.bucket.moment.HasFourDigitYear
  type : ∃ tag, ResourceType.parse tag = .ok key.type

theorem encode_eq (key : Key) : key.encode = ":".intercalate [key.bucket.label,
    Nat.repr key.subscription.toNat, key.type.tag, Nat.repr key.resource.toNat] := by
  simp [encode, ← String.toList_inj]

/-- What is written is read back. -/
theorem decode_encode (writable : IsWritable z key) : decode z key.encode = .ok key := by
  obtain ⟨zone, year, tag, type⟩ := writable
  have read := ResourceType.parse_tag type
  have clean := (ResourceType.parse_eq_ok_iff.1 read).1.2
  have label := (Bucket.toList_label year).1
  refine decode_eq_ok_iff.2 ⟨_, _, _, _, ⟨?_, key.encode_eq⟩, zone ▸ Bucket.parseBucket_label year,
    Decimal.word?_repr _, read, Decimal.word?_repr _⟩
  simp only [List.forall_mem_cons, Nat.toList_repr]
  exact ⟨label.colon_notMem, (Decimal.areDigits_toDigits _).colon_notMem,
    fun colon => (clean ':' colon).1 rfl, (Decimal.areDigits_toDigits _).colon_notMem,
    List.forall_mem_nil _⟩

/-- What has been read can be written. -/
theorem isWritable_of_decode (read : decode z text = .ok key) : IsWritable z key := by
  obtain ⟨label, subscription, tag, resource, -, bucket, -, type, -⟩ := decode_eq_ok_iff.1 read
  obtain ⟨zone, year, -⟩ := Bucket.of_parseBucket bucket
  exact ⟨zone, year, tag, type⟩

/-- The texts that are keys. -/
theorem exists_decode_iff : (∃ key, decode z text = .ok key) ↔
    ∃ label subscription tag resource : String,
      ((∀ field ∈ [label, subscription, tag, resource], ':' ∉ field.toList) ∧
        text = ":".intercalate [label, subscription, tag, resource]) ∧
      IsLabel label ∧ IsWord subscription ∧ IsTag tag ∧ IsWord resource := by
  simp only [decode_eq_ok_iff, ← exists_parseBucket_iff z, ← Decimal.exists_word?_iff]
  constructor
  · rintro ⟨key, label, subscription, tag, resource, parts, bucket, id, type, number⟩
    exact ⟨label, subscription, tag, resource, parts, ⟨_, bucket⟩, ⟨_, id⟩,
      (ResourceType.parse_eq_ok_iff.1 type).1, ⟨_, number⟩⟩
  · rintro ⟨label, subscription, tag, resource, parts, ⟨b, bucket⟩, ⟨s, id⟩, type, ⟨n, number⟩⟩
    exact ⟨⟨b, s, ResourceType.ofTag tag, n⟩, label, subscription, tag, resource, parts, bucket, id,
      ResourceType.parse_eq_ok_iff.2 ⟨type, rfl⟩, number⟩

/-- The written form of keys is faithful: a key that can be written is read back, so no two are
written alike; a text is a key when it is four fields, an hour of the calendar, a number, a tag and
a number; and what has been read is written so that it is read again. -/
theorem codec_faithful (z : Zone) :
    (∀ key, IsWritable z key → decode z key.encode = .ok key) ∧
    (∀ key key', IsWritable z key → IsWritable z key' → key.encode = key'.encode → key = key') ∧
    (∀ text, (∃ key, decode z text = .ok key) ↔ ∃ label subscription tag resource : String,
      ((∀ field ∈ [label, subscription, tag, resource], ':' ∉ field.toList) ∧
        text = ":".intercalate [label, subscription, tag, resource]) ∧
      IsLabel label ∧ IsWord subscription ∧ IsTag tag ∧ IsWord resource) ∧
    ∀ text key, decode z text = .ok key → decode z key.encode = .ok key := by
  refine ⟨fun _ => decode_encode, ?_, fun _ => exists_decode_iff,
    fun _ _ read => decode_encode (isWritable_of_decode read)⟩
  intro key key' writable writable' same
  have read := decode_encode writable
  rw [same, decode_encode writable'] at read
  exact (Except.ok.inj read).symm

/-- A key with a plus sign and with zeros in front of its numbers is written without them. -/
theorem leap_day_read_again :
    let z : Zone := ⟨-12600, by decide, by decide⟩
    let key : Key := ⟨⟨z, 474791⟩, 42, .custom "größe", 7⟩
    (decode z "2024022923:+0042:größe:007" = .ok key ∧ key.encode = "2024022923:42:größe:7" ∧
      IsWritable z key) ∧
    decode z key.encode = .ok key ∧
    (∀ key', IsWritable z key' → key.encode = key'.encode → key = key') ∧
    ∃ key', decode z "2024022923:+0042:größe:18446744073709551615" = .ok key' := by
  intro z key
  obtain ⟨-, apart, accepts, again⟩ := codec_faithful z
  have read : decode z "2024022923:+0042:größe:007" = .ok key := by rfl
  have writable : IsWritable z key := ⟨rfl, by decide, "größe", by rfl⟩
  refine ⟨⟨read, by decide +kernel, writable⟩, again _ key read,
    fun key' => apart key key' writable, (accepts _).2 ⟨"2024022923", "+0042", "größe",
      "18446744073709551615", ⟨by decide +kernel, by rfl⟩, ?_, ?_, ?_, ?_⟩⟩
  · exact ⟨['2', '0', '2', '4'], ['0', '2'], ['2', '9'], ['2', '3'], by rfl, by decide, by decide,
      by decide, by decide⟩
  · exact ⟨['0', '0', '4', '2'], .inr (by rfl), by decide, by decide⟩
  · exact ResourceType.fault?_eq_none_iff.1 (by rfl)
  · exact ⟨"18446744073709551615".toList, .inl rfl, by decide, by decide⟩

end Key

end Metering
