/-!
# Scripts of the hot and the side store

Every change that touches more than one field or key runs on the server as one script, and so at
once. A script is sent once and then called by the hash of its text, so each text is kept to the
letter, with its indentation.

Layout of the stored data, for a prefix `p`: `p:rec:KEY` holds the fields `u`, `d`, `fu` and `fd` of
a record, the counters and the markers; `p:bucket:LABEL` and `p:active` are sets of keys; `p:buckets`
has the labels of the buckets with their scores.
-/

namespace Metering.Redis

/-- A script that runs on the server. -/
inductive Script
  /-- Adds to a record, registers it in the indexes and renews all life spans. -/
  | increment
  /-- Writes the markers of a record; takes the key out of the active index if the counter is as
  expected. -/
  | commit
  /-- Takes a key without pending traffic out of the active index, and its record out of the store
  if asked to. -/
  | settle
  /-- Reads the records of a bucket, and deletes them if asked to. -/
  | collect
  /-- Deletes the records of a bucket and its index. -/
  | clear
  /-- Seeds each direction of a record that has no marker. -/
  | seed
  /-- Deletes a record and takes its key out of the indexes. -/
  | forget
  /-- Replaces a field if it holds what is expected; the empty text stands for an absent field. -/
  | swapField
  /-- Adds to a field. -/
  | addToField
  /-- Writes a field if it is absent. -/
  | setIfAbsent
deriving DecidableEq

namespace Script

/-- Indentation of the lines of a script. -/
def indent : String := "            "

/-- The text of some lines: it begins and ends with a line end, and every line that is not empty is
indented. -/
def textOf (lines : List String) : String :=
  "\n" ++ String.join (lines.map fun line =>
    if line = "" then "\n" else indent ++ line ++ "\n") ++ indent

/-- The name of a script. -/
def name : Script → String
  | increment => "increment"
  | commit => "compare_and_commit"
  | settle => "remove_if_settled"
  | collect => "collect_bucket"
  | clear => "cleanup_bucket"
  | seed => "init_baseline"
  | forget => "cleanup_resource"
  | swapField => "compare_and_set_field"
  | addToField => "incr_field"
  | setIfAbsent => "set_field_if_absent"

/-- The lines of a script. -/
def lines : Script → List String
  | increment => [
    "local record = KEYS[1]",
    "local bucket_index = KEYS[2]",
    "local active_index = KEYS[3]",
    "local registry = KEYS[4]",
    "local member = ARGV[1]",
    "local ttl = ARGV[4]",
    "",
    "if ARGV[2] ~= '0' then",
    "    redis.call('HINCRBY', record, 'u', ARGV[2])",
    "end",
    "if ARGV[3] ~= '0' then",
    "    redis.call('HINCRBY', record, 'd', ARGV[3])",
    "end",
    "redis.call('EXPIRE', record, ttl)",
    "",
    "redis.call('SADD', bucket_index, member)",
    "redis.call('EXPIRE', bucket_index, ttl)",
    "",
    "redis.call('SADD', active_index, member)",
    "redis.call('EXPIRE', active_index, ttl)",
    "",
    "redis.call('ZADD', registry, ARGV[5], ARGV[6])",
    "redis.call('EXPIRE', registry, ttl)",
    "",
    "return 1"]
  | commit => [
    "local record = KEYS[1]",
    "local active_index = KEYS[2]",
    "local member = ARGV[1]",
    "",
    "if redis.call('EXISTS', record) == 0 then",
    "    redis.call('SREM', active_index, member)",
    "    return -1",
    "end",
    "",
    "redis.call('HSET', record, 'fu', ARGV[4], 'fd', ARGV[5])",
    "",
    "local current = redis.call('HMGET', record, 'u', 'd')",
    "local upload = current[1] or '0'",
    "local download = current[2] or '0'",
    "",
    "if upload == ARGV[2] and download == ARGV[3] then",
    "    redis.call('SREM', active_index, member)",
    "    return 1",
    "end",
    "",
    "return 0"]
  | settle => [
    "local record = KEYS[1]",
    "local active_index = KEYS[2]",
    "local bucket_index = KEYS[3]",
    "local member = ARGV[1]",
    "",
    "if redis.call('EXISTS', record) == 0 then",
    "    redis.call('SREM', active_index, member)",
    "    return 1",
    "end",
    "",
    "local v = redis.call('HMGET', record, 'u', 'd', 'fu', 'fd')",
    "if (v[1] or '0') == (v[3] or '0') and (v[2] or '0') == (v[4] or '0') then",
    "    redis.call('SREM', active_index, member)",
    "    if ARGV[2] == '1' then",
    "        redis.call('DEL', record)",
    "        redis.call('SREM', bucket_index, member)",
    "    end",
    "    return 1",
    "end",
    "",
    "return 0"]
  | collect => [
    "local bucket_index = KEYS[1]",
    "local active_index = KEYS[2]",
    "local registry = KEYS[3]",
    "local record_prefix = ARGV[1]",
    "local delete = ARGV[3] == '1'",
    "",
    "local members = redis.call('SMEMBERS', bucket_index)",
    "local out = \x7b\x7d",
    "",
    "for _, member in ipairs(members) do",
    "    local record = record_prefix .. member",
    "    local v = redis.call('HMGET', record, 'u', 'd', 'fu', 'fd')",
    "    if v[1] or v[2] then",
    "        table.insert(out, member)",
    "        table.insert(out, v[1] or '0')",
    "        table.insert(out, v[2] or '0')",
    "        table.insert(out, v[3] or '0')",
    "        table.insert(out, v[4] or '0')",
    "    end",
    "    if delete then",
    "        redis.call('DEL', record)",
    "        redis.call('SREM', active_index, member)",
    "    end",
    "end",
    "",
    "if delete then",
    "    redis.call('DEL', bucket_index)",
    "    redis.call('ZREM', registry, ARGV[2])",
    "end",
    "",
    "return out"]
  | clear => [
    "local bucket_index = KEYS[1]",
    "local active_index = KEYS[2]",
    "local registry = KEYS[3]",
    "local record_prefix = ARGV[1]",
    "",
    "local members = redis.call('SMEMBERS', bucket_index)",
    "local removed = 0",
    "",
    "for _, member in ipairs(members) do",
    "    removed = removed + redis.call('DEL', record_prefix .. member)",
    "    redis.call('SREM', active_index, member)",
    "end",
    "",
    "redis.call('DEL', bucket_index)",
    "redis.call('ZREM', registry, ARGV[2])",
    "",
    "return removed"]
  | seed => [
    "local record = KEYS[1]",
    "local bucket_index = KEYS[2]",
    "local registry = KEYS[3]",
    "local member = ARGV[1]",
    "local ttl = ARGV[4]",
    "local seeded = 0",
    "",
    "if redis.call('HSETNX', record, 'fu', ARGV[2]) == 1 then",
    "    redis.call('HINCRBY', record, 'u', ARGV[2])",
    "    seeded = seeded + 1",
    "end",
    "if redis.call('HSETNX', record, 'fd', ARGV[3]) == 1 then",
    "    redis.call('HINCRBY', record, 'd', ARGV[3])",
    "    seeded = seeded + 1",
    "end",
    "",
    "redis.call('EXPIRE', record, ttl)",
    "redis.call('SADD', bucket_index, member)",
    "redis.call('EXPIRE', bucket_index, ttl)",
    "redis.call('ZADD', registry, ARGV[5], ARGV[6])",
    "redis.call('EXPIRE', registry, ttl)",
    "",
    "return seeded"]
  | forget => [
    "local member = ARGV[1]",
    "redis.call('SREM', KEYS[2], member)",
    "redis.call('SREM', KEYS[3], member)",
    "return redis.call('DEL', KEYS[1])"]
  | swapField => [
    "local current = redis.call('HGET', KEYS[1], ARGV[1])",
    "if (current or '') ~= ARGV[2] then",
    "    return 0",
    "end",
    "redis.call('HSET', KEYS[1], ARGV[1], ARGV[3])",
    "redis.call('EXPIRE', KEYS[1], ARGV[4])",
    "return 1"]
  | addToField => [
    "local value = redis.call('HINCRBY', KEYS[1], ARGV[1], ARGV[2])",
    "redis.call('EXPIRE', KEYS[1], ARGV[3])",
    "return value"]
  | setIfAbsent => [
    "local set = redis.call('HSETNX', KEYS[1], ARGV[1], ARGV[2])",
    "redis.call('EXPIRE', KEYS[1], ARGV[3])",
    "return set"]

/-- The text of a script. -/
def text (s : Script) : String := textOf s.lines

/-- All scripts. -/
def all : List Script :=
  [increment, commit, settle, collect, clear, seed, forget, swapField, addToField, setIfAbsent]

/-- The script of a given name. -/
def ofName? (name : String) : Option Script := all.find? fun s => s.name == name

end Script

end Metering.Redis
