import MolidoVpn.Lib.Transition
import MolidoVpn.Worker.NodeFingerprint

/-!
Calls of `nodeFingerprint` that are under way at the same time. A call runs up to its digest, and
from the digest to its end; between the two, any other call of the isolate can run.
-/

namespace MolidoVpn.Worker

open Eviction (evict total)
open JavaScript (utf16Length)
open Transition (Run ofNext execute run_of_execute)

abbrev MemoEntries := List (List Char × List Char)

/-- The `while` loop that lets the oldest go; nothing where there is no oldest to take the length
of. -/
def evictLoop : MemoEntries → Int → Option (MemoEntries × Int)
  | [], chars => if memoChars < chars then none else some ([], chars)
  | first :: rest, chars =>
      if memoCount < rest.length + 1 ∨ memoChars < chars then
        evictLoop rest (chars - utf16Length first.1)
      else some (first :: rest, chars)

structure FingerprintCall where
  line : List Char
  core : List Char
  deriving DecidableEq

/-- `fingerprintMemo` and `fingerprintChars`, the calls that wait for their digests, and those that
have come to an end. -/
structure Isolate where
  entries : MemoEntries
  chars : Int
  waiting : List FingerprintCall
  returned : List (FingerprintCall × List Char)
  thrown : List FingerprintCall

def Isolate.fresh : Isolate :=
  { entries := []
    chars := 0
    waiting := []
    returned := []
    thrown := [] }

inductive FingerprintEvent where
  | call (line : List Char)
  | digested (place : Nat)
  | refused (place : Nat)

/-- What a call does once it has its fingerprint. -/
def settle (core fp : List Char) (entries : MemoEntries) (chars : Int) :
    Option (MemoEntries × Int) :=
  if utf16Length core ≤ memoLongest then
    if (entries.lookup core).isSome then evictLoop entries chars
    else evictLoop (entries ++ [(core, fp)]) (chars + utf16Length core)
  else some (entries, chars)

def Isolate.call (s : Isolate) (line : List Char) : Isolate :=
  let call := { line := line, core := lineCore line }
  match s.entries.lookup call.core with
  -- A text that is not empty is true.
  | some (c :: hit) => { s with returned := s.returned ++ [(call, c :: hit)] }
  | _ => { s with waiting := s.waiting ++ [call] }

def Isolate.digested (s : Isolate) (call : FingerprintCall) : Isolate :=
  let fp := fingerprintOf call.core
  match settle call.core fp s.entries s.chars with
  | some (entries, chars) =>
      { s with
        entries := entries
        chars := chars
        returned := s.returned ++ [(call, fp)] }
  | none => { s with thrown := s.thrown ++ [call] }

def Isolate.next (s : Isolate) : FingerprintEvent → Option Isolate
  | .call line => some (s.call line)
  | .digested place =>
      s.waiting[place]?.map fun call =>
        { s with waiting := s.waiting.eraseIdx place }.digested call
  -- The digest is not there, and the call ends with the error.
  | .refused place =>
      s.waiting[place]?.map fun _ => { s with waiting := s.waiting.eraseIdx place }

section Loop

/-- With the right count the loop ends, and it ends in time. -/
theorem evictLoop_eq (entries : MemoEntries) :
    evictLoop entries (total entryChars entries) =
      some (evict entryChars memoCount memoChars entries (total entryChars entries)) := by
  induction entries with
  | nil => rfl
  | cons first rest ih =>
      have remaining : total entryChars (first :: rest) - utf16Length first.1 =
          total entryChars rest := by
        rw [Eviction.total_cons, entryChars]
        omega
      unfold evictLoop evict
      rw [entryChars, remaining, ih]
      split
      · rfl
      · rfl

theorem remember_short (memo : FingerprintMemo) {core : List Char}
    (short : utf16Length core ≤ memoLongest) :
    ((memo.remember core).entries, (memo.remember core).chars) =
      evict entryChars memoCount memoChars (memo.put core).1 (memo.put core).2 := by
  unfold FingerprintMemo.remember
  rw [if_pos short]

theorem settle_eq (memo : FingerprintMemo) (core : List Char) :
    settle core (fingerprintOf core) memo.entries memo.chars =
      some ((memo.remember core).entries, (memo.remember core).chars) := by
  unfold settle
  by_cases short : utf16Length core ≤ memoLongest
  · have counted := memo.put_counted core
    rw [if_pos short, remember_short memo short, counted, ← evictLoop_eq, ← counted]
    unfold FingerprintMemo.put
    split
    · rfl
    · rfl
  · rw [if_neg short]
    unfold FingerprintMemo.remember
    rw [if_neg short]

end Loop

section Distinct

/-- The oldest entries go, so no key comes twice. -/
theorem nodup_evict {entries : MemoEntries} (distinct : (entries.map Prod.fst).Nodup)
    (chars : Int) :
    ((evict entryChars memoCount memoChars entries chars).1.map Prod.fst).Nodup :=
  distinct.sublist ((Eviction.evict_suffix _ _ _ _).sublist.map Prod.fst)

theorem nodup_put {memo : FingerprintMemo} (distinct : (memo.entries.map Prod.fst).Nodup)
    (core : List Char) : ((memo.put core).1.map Prod.fst).Nodup := by
  unfold FingerprintMemo.put
  cases found : memo.entries.lookup core with
  | some fp => exact distinct
  | none =>
      have absent : core ∉ memo.entries.map Prod.fst := by
        intro member
        obtain ⟨entry, inside, same⟩ := List.mem_map.mp member
        have differs := List.lookup_eq_none_iff.mp found entry inside
        rw [same, bne_self_eq_false] at differs
        cases differs
      rw [Option.isSome_none, if_neg Bool.false_ne_true, List.map_append]
      apply List.nodup_append.mpr
      constructor
      · exact distinct
      · constructor
        · exact List.nodup_singleton core
        · intro other member last new same
          rw [same, List.mem_singleton.mp new] at member
          exact absent member

theorem nodup_remember {memo : FingerprintMemo} (distinct : (memo.entries.map Prod.fst).Nodup)
    (core : List Char) : ((memo.remember core).entries.map Prod.fst).Nodup := by
  unfold FingerprintMemo.remember
  split
  · exact nodup_evict (nodup_put distinct core) _
  · exact distinct

end Distinct

section Runs

/-- What the memo is in every state, and what the calls have given. -/
structure Isolate.Sound (s : Isolate) : Prop where
  memo : ∃ memo : FingerprintMemo, memo.entries = s.entries ∧ memo.chars = s.chars
  distinct : (s.entries.map Prod.fst).Nodup
  cores : ∀ call ∈ s.waiting, call.core = lineCore call.line
  values : ∀ ended ∈ s.returned, ended.2 = fingerprintOf (lineCore ended.1.line)
  ends : s.thrown = []

variable {s : Isolate}

theorem sound_fresh : Isolate.fresh.Sound where
  memo := ⟨.empty, rfl, rfl⟩
  distinct := List.nodup_nil
  cores := fun _ member => absurd member List.not_mem_nil
  values := fun _ member => absurd member List.not_mem_nil
  ends := rfl

theorem Isolate.Sound.call (sound : s.Sound) (line : List Char) : (s.call line).Sound := by
  obtain ⟨memo, entries, chars⟩ := sound.memo
  have waits : Isolate.Sound { s with waiting := s.waiting ++
      [{ line := line, core := lineCore line }] } := by
    constructor
    · exact sound.memo
    · exact sound.distinct
    · intro call member
      rcases List.mem_append.mp member with old | new
      · exact sound.cores call old
      · rw [List.mem_singleton.mp new]
    · exact sound.values
    · exact sound.ends
  unfold Isolate.call
  dsimp only
  split
  · rename_i c hit found
    constructor
    · exact sound.memo
    · exact sound.distinct
    · exact sound.cores
    · intro ended member
      rcases List.mem_append.mp member with old | new
      · exact sound.values ended old
      · rw [List.mem_singleton.mp new]
        rw [← entries] at found
        exact FingerprintMemo.lookup_sound found
    · exact sound.ends
  · exact waits

theorem Isolate.Sound.leave (sound : s.Sound) (place : Nat) :
    { s with waiting := s.waiting.eraseIdx place }.Sound where
  memo := sound.memo
  distinct := sound.distinct
  cores := fun call member => sound.cores call (List.mem_of_mem_eraseIdx member)
  values := sound.values
  ends := sound.ends

/-- The count is right whatever the other calls have put in or thrown out since this one missed. -/
theorem Isolate.Sound.digested (sound : s.Sound) {call : FingerprintCall}
    (own : call.core = lineCore call.line) : (s.digested call).Sound := by
  obtain ⟨memo, entries, chars⟩ := sound.memo
  unfold Isolate.digested
  dsimp only
  rw [← entries, ← chars, settle_eq]
  constructor
  · exact ⟨memo.remember call.core, rfl, rfl⟩
  · exact nodup_remember (entries ▸ sound.distinct) call.core
  · exact sound.cores
  · intro ended member
    rcases List.mem_append.mp member with old | new
    · exact sound.values ended old
    · rw [List.mem_singleton.mp new, ← own]
  · exact sound.ends

theorem Isolate.Sound.next {event : FingerprintEvent} {later : Isolate} (sound : s.Sound)
    (step : s.next event = some later) : later.Sound := by
  cases event with
  | call line =>
      cases step
      exact sound.call line
  | digested place =>
      obtain ⟨call, found, rfl⟩ := Option.map_eq_some_iff.mp step
      exact (sound.leave place).digested (sound.cores call (List.mem_of_getElem? found))
  | refused place =>
      obtain ⟨call, _, rfl⟩ := Option.map_eq_some_iff.mp step
      exact sound.leave place

variable {events : List FingerprintEvent}

/-- However the calls are interleaved: the count is that of the keys, both bounds are met, no call
stops in the loop, and every call gives the fingerprint of its own core. -/
theorem fingerprints_kept (run : Run (ofNext Isolate.next) .fresh events s) :
    (s.entries.map Prod.fst).Nodup ∧
      s.chars = ((s.entries.map fun entry => utf16Length entry.1).sum : Nat) ∧
      s.entries.length ≤ memoCount ∧ s.chars ≤ memoChars ∧ s.thrown = [] ∧
      ∀ ended ∈ s.returned, ended.2 = fingerprintOf (lineCore ended.1.line) := by
  have sound := run.invariant Isolate.Sound
    (fun source event target step sound => sound.next step) sound_fresh
  obtain ⟨memo, entries, chars⟩ := sound.memo
  rw [← entries, ← chars]
  exact ⟨entries ▸ sound.distinct, memo.counted, memo.bounded.1, memo.bounded.2, sound.ends,
    sound.values⟩

/-- Two calls for one line that both miss it, and a third call. -/
def crossed : List FingerprintEvent :=
  [.call "ss://a#x".toList, .call "ss://a#y".toList, .call "ss://b".toList, .digested 1,
    .digested 0, .digested 0]

theorem fingerprints_kept_crossed : ∃ s, Run (ofNext Isolate.next) .fresh crossed s ∧
    s.entries.map Prod.fst = ["ss://a".toList, "ss://b".toList] ∧ s.chars = 12 ∧
    (s.entries.map Prod.fst).Nodup ∧
    s.chars = ((s.entries.map fun entry => utf16Length entry.1).sum : Nat) ∧
    s.entries.length ≤ memoCount ∧ s.chars ≤ memoChars ∧ s.thrown = [] ∧
    ∀ ended ∈ s.returned, ended.2 = fingerprintOf (lineCore ended.1.line) := by
  have executed : ∃ s, execute Isolate.next .fresh crossed = some s ∧
      s.entries.map Prod.fst = ["ss://a".toList, "ss://b".toList] ∧ s.chars = 12 :=
    ⟨_, rfl, rfl, rfl⟩
  obtain ⟨s, executed, keys, chars⟩ := executed
  have run := run_of_execute executed
  exact ⟨s, run, keys, chars, fingerprints_kept run⟩

end Runs

end MolidoVpn.Worker
