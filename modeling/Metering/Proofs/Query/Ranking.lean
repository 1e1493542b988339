import Metering.Proofs.Query.Trends

/-!
# Rankings and pages

The groups of a report are ranked, and a page is a slice of the ranking. No two groups of a report
have one key, so the ranking is strict: there is only one, in whatever order the groups are listed.
The largest groups are the first of the same ranking, also where the cold tier ranks its own sums.

Results:
1. `pages_partition_ranking`: the pages of a report partition the ranking of its groups.
2. `top_eq_take_ranking`: the largest groups are the first that the pages would show.
-/

namespace Metering

open Program (Steady Reaches)

/-! ## Rankings -/

namespace Group

/-- `a` has the larger total, or the smaller key where the totals agree. -/
def Precedes (a b : Group × Traffic) : Prop :=
  b.2.total < a.2.total ∨ a.2.total = b.2.total ∧ compare a.1 b.1 = .lt

instance (a b : Group × Traffic) : Decidable (Precedes a b) :=
  inferInstanceAs (Decidable (_ ∨ _ ∧ _))

variable {a b d : Group × Traffic} {groups order : List (Group × Traffic)}

theorem before_iff : before a b = true ↔
    b.2.total < a.2.total ∨ a.2.total = b.2.total ∧ (compare a.1 b.1).isLE = true := by
  simp [before]

theorem before_trans (a b d : Group × Traffic) (first : before a b = true)
    (second : before b d = true) : before a d = true := by
  rw [before_iff] at first second ⊢
  rcases first with larger | ⟨same, le⟩
  · left
    rcases second with larger' | ⟨same', -⟩
    · exact Nat.lt_trans larger' larger
    · exact same' ▸ larger
  · rcases second with larger' | ⟨same', le'⟩
    · exact .inl (same ▸ larger')
    · exact .inr ⟨same.trans same', Std.TransCmp.isLE_trans le le'⟩

theorem before_total (a b : Group × Traffic) : (before a b || before b a) = true := by
  rw [Bool.or_eq_true, before_iff, before_iff]
  rcases Nat.lt_trichotomy a.2.total.toNat b.2.total.toNat with smaller | same | larger
  · exact .inr (.inl smaller)
  · have same : a.2.total = b.2.total := Count.ext same
    have swapped : compare b.1 a.1 = (compare a.1 b.1).swap := Std.OrientedCmp.eq_swap
    rw [swapped]
    cases compare a.1 b.1
    · exact .inl (.inr ⟨same, rfl⟩)
    · exact .inl (.inr ⟨same, rfl⟩)
    · exact .inr (.inr ⟨same.symm, rfl⟩)
  · exact .inl (.inl larger)

/-- Of groups with different keys one precedes the other. -/
theorem precedes_of_before (ordered : before a b = true) (differ : a.1 ≠ b.1) : Precedes a b := by
  refine (before_iff.1 ordered).imp_right fun ⟨same, le⟩ => ⟨same, ?_⟩
  cases order : compare a.1 b.1 with
  | lt => rfl
  | eq => exact (differ (Std.LawfulEqCmp.eq_of_compare order)).elim
  | gt =>
    rw [order] at le
    cases le

theorem perm_ranked (groups : List (Group × Traffic)) : (ranked groups).Perm groups :=
  List.mergeSort_perm ..

theorem pairwise_ranked (groups : List (Group × Traffic)) :
    (ranked groups).Pairwise fun a b => before a b = true :=
  List.pairwise_mergeSort before_trans before_total groups

/-- The ranking of groups with different keys is strict. -/
theorem precedes_ranked (nodup : (groups.map Prod.fst).Nodup) :
    (ranked groups).Pairwise Precedes := by
  have differ : ((ranked groups).map Prod.fst).Nodup :=
    ((perm_ranked groups).map _).nodup_iff.2 nodup
  refine (pairwise_ranked groups).imp₂ (fun a b => precedes_of_before) ?_
  exact List.pairwise_map.1 differ

theorem Precedes.asymm (first : Precedes a b) : ¬ Precedes b a := by
  rintro (larger' | ⟨same', lt'⟩)
  · rcases first with larger | ⟨same, -⟩
    · exact Nat.lt_asymm larger larger'
    · exact Nat.lt_irrefl _ (same ▸ larger')
  · rcases first with larger | ⟨-, lt⟩
    · exact Nat.lt_irrefl _ (same' ▸ larger)
    · rw [Std.OrientedCmp.gt_of_lt lt] at lt'
      cases lt'

/-- There is no other ranking. -/
theorem eq_ranked (nodup : (groups.map Prod.fst).Nodup) (perm : order.Perm groups)
    (ordered : order.Pairwise Precedes) : order = ranked groups := by
  have same : order.Perm (ranked groups) := perm.trans (perm_ranked groups).symm
  refine same.eq_of_pairwise (fun a b _ _ first second => ?_) ordered (precedes_ranked nodup)
  exact (first.asymm second).elim

/-- In whatever order groups are listed, they have one ranking. -/
theorem ranked_perm (nodup : (groups.map Prod.fst).Nodup) (perm : order.Perm groups) :
    ranked order = ranked groups := by
  have nodup' : (order.map Prod.fst).Nodup := (perm.map _).nodup_iff.2 nodup
  exact eq_ranked nodup ((perm_ranked order).trans perm) (precedes_ranked nodup')

end Group

/-! ## Pages -/

namespace Page

variable {α : Type} {xs : List α} {number size : Nat}

theorem of_pos (numbered : 0 < number) (sized : 0 < size) : of number size = .ok ⟨number, size⟩ :=
  if_neg (by omega)

/-- Pages count elements in machine words, of which there are enough for the list. -/
theorem slice_eq (p : Page) (few : xs.length ≤ maxWord) :
    p.slice xs = (xs.drop ((p.number - 1) * p.size)).take p.size := by
  unfold slice offset
  rcases Nat.le_total ((p.number - 1) * p.size) maxWord with within | beyond
  · rw [Nat.min_eq_left within]
  · rw [Nat.min_eq_right beyond, List.drop_eq_nil_of_le few,
      List.drop_eq_nil_of_le (Nat.le_trans few beyond)]

/-- Number of pages of a size that some elements take. -/
def count (elements size : Nat) : Nat := (elements + size - 1) / size

theorem le_count_mul (elements : Nat) (sized : 0 < size) :
    elements ≤ count elements size * size := by
  have lt := Nat.lt_mul_div_succ (elements + size - 1) sized
  rw [Nat.mul_succ, Nat.mul_comm] at lt
  unfold count
  omega

/-- The first pages have the first elements, each once and in their order. -/
theorem flatMap_take (count : Nat) :
    ((List.range' 1 count).flatMap fun number => (xs.drop ((number - 1) * size)).take size) =
      xs.take (count * size) := by
  induction count with
  | zero => simp
  | succ count ih =>
    rw [List.range'_1_concat, List.flatMap_append, ih, List.flatMap_singleton, Nat.succ_mul,
      Nat.add_sub_cancel_left, List.take_add]

/-- The pages have all elements, each once and in their order. -/
theorem flatMap_pages (xs : List α) (sized : 0 < size) :
    ((List.range' 1 (count xs.length size)).flatMap fun number =>
      (xs.drop ((number - 1) * size)).take size) = xs := by
  rw [flatMap_take, List.take_of_length_le (le_count_mul _ sized)]

/-- Nothing is on the pages after. -/
theorem drop_eq_nil (xs : List α) (sized : 0 < size) (later : count xs.length size < number) :
    xs.drop ((number - 1) * size) = [] := by
  refine List.drop_eq_nil_of_le ((le_count_mul _ sized).trans ?_)
  exact Nat.mul_le_mul_right size (Nat.le_sub_one_of_lt later)

end Page

/-! ## Names -/

namespace GroupRow

/-- A row without its name. -/
def entry (row : GroupRow) : Group × Traffic := (row.group, row.traffic)

/-- The rows of the groups that have a name. -/
def named (name : Group → Option String) (groups : List (Group × Traffic)) : List GroupRow :=
  groups.filterMap fun (group, traffic) => (name group).map fun name => ⟨group, name, traffic⟩

theorem map_entry_named (name : Group → Option String) (groups : List (Group × Traffic)) :
    (named name groups).map entry = groups.filter fun group => (name group.1).isSome := by
  unfold named
  rw [List.map_filterMap, ← List.filterMap_eq_filter]
  refine congrArg (List.filterMap · groups) (funext fun (group, traffic) => ?_)
  cases told : name group <;> simp [Option.guard, entry, told]

end GroupRow

/-- The resolver never fails, and has names for the `known` groups, whichever are asked for. -/
def Resolver.Knows (r : Resolver) (known : Group → Bool) : Prop :=
  ∀ groups, ∃ name, r groups = .ok name ∧ ∀ group ∈ groups, (name group).isSome = known group

namespace Query

open Hot (Call)

variable {c : Settings} {name : Group → Option String} {known : Group → Bool}

theorem resolve_eq {groups : List (Group × Traffic)}
    (told : c.resolver (groups.map (·.1)) = .ok name) :
    resolve c groups = .ok (GroupRow.named name groups) := by
  unfold resolve
  rw [told]
  cases groups <;> rfl

theorem resolve_ofNames (named : c.resolver = .ofNames name) (groups : List (Group × Traffic)) :
    resolve c groups = .ok (GroupRow.named name groups) :=
  resolve_eq (congrFun named _)

/-- The known groups are shown, in their order. -/
theorem resolve_knows (knows : c.resolver.Knows known) (groups : List (Group × Traffic)) :
    ∃ rows, resolve c groups = .ok rows ∧
      rows.map GroupRow.entry = groups.filter fun group => known group.1 := by
  obtain ⟨name, told, agrees⟩ := knows (groups.map (·.1))
  refine ⟨GroupRow.named name groups, resolve_eq told, ?_⟩
  rw [GroupRow.map_entry_named]
  exact List.filter_congr fun group member => agrees _ (List.mem_map_of_mem member)

/-- The pages of a report, on stores of which the hot one has come about by some calls, while some
of the calls of the query fail. The ranking of the groups is strict, and does not depend on the order
in which they are listed. The pages have its known groups, each once and in their order, however
often and in which order the pages are asked for. All of them tell the same number of groups, and
those after the last group are empty. -/
theorem pages_partition_ranking (c : Settings) (o : Outage) (dimension : Dimension)
    (filter : Option ResourceType) {lifespan : Int} {calls : List Call} {w : World}
    (history : w.hot = (Hot.Store.empty lifespan).afterCalls calls) {window : Window}
    {groups : Cold.Sums Group} {warnings : List Warning}
    (found : o.Gives (mergedGroups c dimension filter (window.hours c.zone)) w
      (.ok ⟨groups, warnings⟩))
    (few : groups.size ≤ maxWord) {known : Group → Bool} (knows : c.resolver.Knows known)
    {size : Nat} (sized : 0 < size) (limited : 0 < c.config.maxPageSize) :
    let size' := min size c.config.maxPageSize
    let last := Page.count groups.size size'
    let ranking := Group.ranked groups.toList
    (∀ order, order.Perm groups.toList → Group.ranked order = ranking) ∧
    ranking.Perm groups.toList ∧ ranking.Pairwise Group.Precedes ∧
    ∃ rows : Nat → List GroupRow,
      (∀ numbers : List Nat, (∀ number ∈ numbers, 0 < number) →
        o.Gives (numbers.mapM fun number => grouped c dimension filter window ⟨number, size⟩) w
          (.ok (numbers.map fun number =>
            ⟨⟨rows number, groups.size, number, size'⟩, warnings⟩))) ∧
      (∀ number, (rows number).map GroupRow.entry =
        ((ranking.drop ((number - 1) * size')).take size').filter fun group => known group.1) ∧
      ((List.range' 1 last).flatMap rows).map GroupRow.entry =
        ranking.filter (fun group => known group.1) ∧
      ((∀ group, known group = true) →
        ((List.range' 1 last).flatMap rows).map GroupRow.entry = ranking) ∧
      ∀ number, last < number → rows number = [] := by
  intro size' last ranking
  have sized' : 0 < size' := Nat.lt_min.2 ⟨sized, limited⟩
  have nodup := groups.nodup_toList
  have length : ranking.length = groups.size := length_ranked groups
  have scheduled := scheduled_of_history history
  have merges : mergedReads c o dimension filter (window.hours c.zone) w = .ok ⟨groups, warnings⟩ :=
    (gives_of_steady scheduled (steady_mergedReads rfl)).unique found
  choose rows resolved shown using fun number : Nat =>
    resolve_knows knows ((ranking.drop ((number - 1) * size')).take size')
  have all : ((List.range' 1 last).flatMap rows).map GroupRow.entry =
      ranking.filter fun group => known group.1 := by
    have pages := Page.flatMap_pages ranking sized'
    rw [length] at pages
    rw [List.map_flatMap, funext shown, ← List.filter_flatMap, pages]
  refine ⟨fun order => Group.ranked_perm nodup, Group.perm_ranked _, Group.precedes_ranked nodup,
    rows, fun numbers positive => ?_, shown, all, fun every => ?_, fun number later => ?_⟩
  · refine gives_of_steady scheduled (Steady.task_mapM fun number member => ?_)
    have page : Steady o.answer (AsFound w)
        (grouped c dimension filter window ⟨number, size⟩).run _ :=
      steady_grouped (Page.of_pos (positive number member) sized')
    rw [merges] at page
    dsimp only [Except.bind] at page
    rw [Page.slice_eq _ (length.le.trans few)] at page
    dsimp only at page
    rw [resolved] at page
    exact page
  · exact all.trans (List.filter_eq_self.2 fun group _ => every group.1)
  · have none : ranking.drop ((number - 1) * size') = [] :=
      Page.drop_eq_nil ranking sized' (length ▸ later)
    refine List.map_eq_nil_iff.1 ((shown number).trans ?_)
    rw [none, List.take_nil, List.filter_nil]

/-- Three nodes, of which two have one total: pages of five are limited to two, and the third page
is empty. -/
theorem pages_of_two_days :
    ∃ rows : Nat → List GroupRow,
      (∀ result t, Reaches (downOf [hourOf 474802]).answer
        ([3, 1, 2].mapM fun number =>
          grouped twoOfEach .resource none twoDays ⟨number, 5⟩ : Task _).run acrossTiers
            (.pure result) t →
        result = .ok ([3, 1, 2].map fun number =>
          ⟨⟨rows number, 3, number, 2⟩, [.rowCapExceeded 3 2, .hotDegraded 1]⟩)) ∧
      (rows 1).map GroupRow.entry =
        [(.resource .node 3, .ofNats 30 30), (.resource .node 1, .ofNats 15 25)] ∧
      (rows 2).map GroupRow.entry = [(.resource .node 2, .ofNats 20 20)] ∧ rows 3 = [] := by
  let parts : List (Group × Traffic) :=
    coldParts twoOfEach .resource none (twoDays.hours twoOfEach.zone) acrossTiers ++
      (readParts twoOfEach (downOf [hourOf 474802]) none (twoDays.hours twoOfEach.zone)
        acrossTiers).map fun part => (Group.ofKey .resource part.1, part.2)
  have merges : mergedReads twoOfEach (downOf [hourOf 474802]) .resource none
      (twoDays.hours twoOfEach.zone) acrossTiers =
        .ok ⟨.ofList parts, [.rowCapExceeded 3 2, .hotDegraded 1]⟩ := by
    have calm : coldFailure? twoOfEach (downOf [hourOf 474802]) .resource none
        (twoDays.hours twoOfEach.zone) acrossTiers = none := by decide +kernel
    have flags : lacks twoOfEach (downOf [hourOf 474802]) .resource none
        (twoDays.hours twoOfEach.zone) acrossTiers = [.rowCapExceeded 3 2, .hotDegraded 1] := by
      decide +kernel
    rw [mergedReads, calm, flags]
    rfl
  have found : (downOf [hourOf 474802]).Gives (mergedGroups twoOfEach .resource none
      (twoDays.hours twoOfEach.zone)) acrossTiers _ :=
    gives_of_steady (scheduled_of_history rfl) (steady_mergedReads rfl)
  rw [merges] at found
  have size : (Cold.Sums.ofList parts).size = 3 := by decide +kernel
  have ranking : [(.resource .node 3, .ofNats 30 30), (.resource .node 1, .ofNats 15 25),
      (.resource .node 2, .ofNats 20 20)] = Group.ranked (Cold.Sums.ofList parts).toList :=
    Group.eq_ranked (Cold.Sums.nodup_toList _) (by decide +kernel) (by decide +kernel)
  have knows : twoOfEach.resolver.Knows fun _ => true := fun _ => ⟨_, rfl, fun _ _ => rfl⟩
  obtain ⟨-, -, -, rows, pages, shown, -, -, later⟩ := pages_partition_ranking twoOfEach
    (downOf [hourOf 474802]) .resource none rfl found (size ▸ by decide) knows
    (by decide : 0 < 5) (by decide)
  rw [size] at pages later
  rw [← ranking] at shown
  exact ⟨rows, (pages [3, 1, 2] (by decide)).2, shown 1, shown 2, later 3 (by decide)⟩

/-- The largest groups of a window, on stores of which the hot one has come about by some calls,
while hours of the hot tier and the cold tier may be down. Both the largest groups and the pages fail
with the cold tier, or the first groups of the ranking are told that the pages are slices of,
whichever tier has ranked them, and the same is told of what may be lacking. -/
theorem top_eq_take_ranking (c : Settings) (hour? : Bucket → Option Error) (cold? : Option Error)
    (dimension : Dimension) (filter : Option ResourceType) {lifespan : Int} {calls : List Call}
    {w : World} (history : w.hot = (Hot.Store.empty lifespan).afterCalls calls) (window : Window)
    {name : Group → Option String} (named : c.resolver = .ofNames name) (count : Nat) :
    (∃ e, coldDown? cold? w = some e ∧
      (Outage.ofTiers hour? cold?).Gives (top c dimension filter window count) w (.error e) ∧
      ∀ page page', Page.of page.number (min page.size c.config.maxPageSize) = .ok page' →
        (Outage.ofTiers hour? cold?).Gives (grouped c dimension filter window page) w (.error e)) ∨
    ∃ (groups : Cold.Sums Group) (warnings : List Warning),
      (Outage.ofTiers hour? cold?).Gives (mergedGroups c dimension filter (window.hours c.zone)) w
        (.ok ⟨groups, warnings⟩) ∧
      (Outage.ofTiers hour? cold?).Gives (top c dimension filter window count) w
        (.ok ⟨GroupRow.named name ((Group.ranked groups.toList).take count), warnings⟩) ∧
      ∀ page page', Page.of page.number (min page.size c.config.maxPageSize) = .ok page' →
        (Outage.ofTiers hour? cold?).Gives (grouped c dimension filter window page) w
          (.ok ⟨⟨GroupRow.named name (page'.slice (Group.ranked groups.toList)), groups.size,
            page'.number, page'.size⟩, warnings⟩) := by
  have scheduled := scheduled_of_history history
  have merges : (Outage.ofTiers hour? cold?).Gives
      (mergedGroups c dimension filter (window.hours c.zone)) w _ :=
    gives_of_steady scheduled (steady_mergedReads rfl)
  have tops : (Outage.ofTiers hour? cold?).Gives (top c dimension filter window count) w _ :=
    gives_of_steady scheduled steady_top
  have pages : ∀ page page', Page.of page.number (min page.size c.config.maxPageSize) = .ok page' →
      (Outage.ofTiers hour? cold?).Gives (grouped c dimension filter window page) w _ :=
    fun page page' paged => gives_of_steady scheduled (steady_grouped paged)
  simp only [resolve_ofNames named] at tops pages
  unfold mergedReads at merges tops pages
  rcases coldFailure?_cases c hour? cold? filter (window.hours c.zone) w with
    ⟨e, down, failure⟩ | calm
  · simp only [failure] at tops pages
    exact .inl ⟨e, down, tops, pages⟩
  · simp only [calm] at merges tops pages
    exact .inr ⟨_, _, merges, tops, pages⟩

/-- All of the window is cold, so the cold tier ranks its own sums; one of its two groups has no
name. -/
theorem top_of_cold_days :
    let name : Group → Option String := fun group =>
      if group = .resource .node 1 then none else some group.text
    let c : Settings := { twoOfEach with resolver := .ofNames name }
    let window : Window := ⟨.ofSeconds 1709136000, .ofSeconds 1709255400, by decide⟩
    (Outage.ofTiers hourDown none).Gives (top c .resource none window 1) acrossTiers
      (.ok ⟨[⟨.resource .node 2, "node:2", .ofNats 20 20⟩], [.rowCapExceeded 3 2]⟩) ∧
    (Outage.ofTiers hourDown none).Gives (grouped c .resource none window ⟨1, 5⟩) acrossTiers
      (.ok ⟨⟨[⟨.resource .node 2, "node:2", .ofNats 20 20⟩], 2, 1, 2⟩, [.rowCapExceeded 3 2]⟩) := by
  intro name c window
  let parts : List (Group × Traffic) :=
    coldParts c .resource none (window.hours c.zone) acrossTiers ++
      (readParts c (.ofTiers hourDown none) none (window.hours c.zone) acrossTiers).map fun part =>
        (Group.ofKey .resource part.1, part.2)
  have merges : mergedReads c (.ofTiers hourDown none) .resource none (window.hours c.zone)
      acrossTiers = .ok ⟨.ofList parts, [.rowCapExceeded 3 2]⟩ := by
    have calm : coldFailure? c (.ofTiers hourDown none) .resource none (window.hours c.zone)
        acrossTiers = none := by decide +kernel
    have flags : lacks c (.ofTiers hourDown none) .resource none (window.hours c.zone)
        acrossTiers = [.rowCapExceeded 3 2] := by decide +kernel
    rw [mergedReads, calm, flags]
    rfl
  rcases top_eq_take_ranking c hourDown none .resource none (w := acrossTiers) rfl window rfl 1 with
    ⟨_, down, -⟩ | ⟨groups, warnings, found, largest, pages⟩
  · cases down
  have same := found.unique (gives_of_steady (scheduled_of_history rfl) (steady_mergedReads rfl))
  rw [merges, Except.ok.injEq, Answer.mk.injEq] at same
  obtain ⟨rfl, rfl⟩ := same
  have size : (Cold.Sums.ofList parts).size = 2 := by decide +kernel
  have ranking : [(.resource .node 2, .ofNats 20 20), (.resource .node 1, .ofNats 10 10)] =
      Group.ranked (Cold.Sums.ofList parts).toList :=
    Group.eq_ranked (Cold.Sums.nodup_toList _) (by decide +kernel) (by decide +kernel)
  have page := pages ⟨1, 5⟩ ⟨1, 2⟩ rfl
  rw [← ranking] at largest page
  rw [size] at page
  exact ⟨largest, page⟩

end Query

end Metering
