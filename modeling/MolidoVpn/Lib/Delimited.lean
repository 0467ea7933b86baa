import MolidoVpn.Lib.Text

/-!
A stream that comes in chunks, and its part up to the first end mark. Chunks are collected until
the mark is among them or more has come than there is room for; the part that is found does not
depend on where the chunks end, as long as there is room for it.
-/

namespace MolidoVpn.Delimited

open Text (splitAround)

universe u

section Marks

variable {Element : Type u}

/-- The mark ends the part, and nothing before that ends with it. -/
def Closes (mark head : List Element) : Prop := mark <:+ head ∧ ¬mark <:+: head.dropLast

variable {mark head other rest more items : List Element}

/-- There is only one such part at the front of a stream. -/
theorem Closes.length_le (closes : Closes mark head) (closes' : Closes mark other)
    (same : head ++ rest = other ++ more) : other.length ≤ head.length := by
  by_contra longer
  apply closes'.2
  have inside : head <+: other.dropLast := by
    refine List.prefix_of_prefix_length_le ⟨rest, same⟩
      ((List.dropLast_prefix other).trans (List.prefix_append _ _)) ?_
    rw [List.length_dropLast]
    omega
  exact closes.1.isInfix.trans inside.isInfix

theorem Closes.unique (closes : Closes mark head) (closes' : Closes mark other)
    (same : head ++ rest = other ++ more) : head = other :=
  (List.append_inj same (Nat.le_antisymm (closes'.length_le closes same.symm)
    (closes.length_le closes' same))).1

variable [DecidableEq Element]

/-- How far it is to the end of the first mark. -/
def endOf (mark items : List Element) : Option Nat :=
  (splitAround mark items).map fun (before, _) => before.length + mark.length

theorem closes_of_endOf {size : Nat} (nonempty : mark ≠ []) (found : endOf mark items = some size) :
    ∃ head rest, items = head ++ rest ∧ head.length = size ∧ Closes mark head := by
  obtain ⟨⟨before, after⟩, split, rfl⟩ := Option.map_eq_some_iff.mp found
  have whole := Text.splitAround_eq_append split
  refine ⟨before ++ mark, after, by rw [List.append_assoc]; exact whole, List.length_append, ?_⟩
  refine ⟨List.suffix_append _ _, ?_⟩
  intro earlier
  obtain ⟨⟨before', after'⟩, split'⟩ :=
    Option.isSome_iff_exists.mp (Text.splitAround_isSome_iff.mpr earlier)
  have parts := Text.splitAround_append_right split' ([mark.getLast nonempty] ++ after)
  have joined : (before ++ mark).dropLast ++ ([mark.getLast nonempty] ++ after) = items := by
    rw [List.dropLast_append_of_ne_nil nonempty, ← List.append_assoc, List.append_assoc before,
      List.dropLast_append_getLast nonempty, List.append_assoc]
    exact whole.symm
  rw [joined, split] at parts
  have lengths := congrArg List.length (Text.splitAround_eq_append split')
  have first : before = before' := congrArg Prod.fst (Option.some.inj parts)
  simp only [List.length_append, List.length_dropLast, first] at lengths
  have := List.length_pos_of_ne_nil nonempty
  omega

theorem endOf_of_closes (nonempty : mark ≠ []) (closes : Closes mark head) (rest : List Element) :
    endOf mark (head ++ rest) = some head.length := by
  have occurs : (splitAround mark (head ++ rest)).isSome = true :=
    Text.splitAround_isSome_iff.mpr (closes.1.isInfix.trans (List.prefix_append _ _).isInfix)
  obtain ⟨size, found⟩ := Option.isSome_iff_exists.mp
    ((Option.isSome_map (x := splitAround mark (head ++ rest))
      (f := fun (before, _) => before.length + mark.length)).trans occurs)
  obtain ⟨other, more, same, length, closes'⟩ := closes_of_endOf nonempty found
  rw [← length, ← closes.unique closes' same] at found
  exact found

end Marks

section Collecting

variable {Element : Type u} [DecidableEq Element]

/-- What has become of the chunks: the part, what has come with it and the chunks not taken; too
much of a part; or not all of it. -/
inductive Collected (Element : Type u) where
  | whole (head left : List Element) (later : List (List Element))
  | tooLong
  | incomplete

def collect (mark : List Element) (room : Nat) (held : List Element) :
    List (List Element) → Collected Element
  | [] => .incomplete
  | chunk :: chunks =>
      match endOf mark (held ++ chunk) with
      | some size => .whole ((held ++ chunk).take size) ((held ++ chunk).drop size) chunks
      | none =>
          if room < (held ++ chunk).length then .tooLong
          else collect mark room (held ++ chunk) chunks

variable {mark held head left rest : List Element} {room : Nat} {chunks later : List (List Element)}

/-- Nothing of what was taken is lost or doubled, and the part is the one up to the mark. -/
theorem collect_whole (nonempty : mark ≠ [])
    (collected : collect mark room held chunks = .whole head left later) :
    ∃ used, chunks = used ++ later ∧ head ++ left = held ++ used.flatten ∧ Closes mark head := by
  induction chunks generalizing held with
  | nil => cases collected
  | cons chunk chunks ih =>
      rw [collect] at collected
      cases found : endOf mark (held ++ chunk) with
      | some size =>
          rw [found] at collected
          obtain ⟨front, behind, same, length, closes⟩ := closes_of_endOf nonempty found
          cases collected
          refine ⟨[chunk], rfl, ?_, ?_⟩
          · rw [List.take_append_drop, List.flatten_singleton]
          · rw [same, ← length, List.take_left]
            exact closes
      | none =>
          rw [found] at collected
          simp only at collected
          split at collected
          · cases collected
          · obtain ⟨used, parts, whole, closes⟩ := ih collected
            refine ⟨chunk :: used, ?_, ?_, closes⟩
            · rw [parts, List.cons_append]
            · rw [whole, List.flatten_cons, List.append_assoc]

/-- A part that there is room for is found, wherever the chunks end. -/
theorem collect_of_closes (held : List Element) (nonempty : mark ≠ []) (closes : Closes mark head)
    (fits : head.length ≤ room) (missing : endOf mark held = none)
    (stream : held ++ chunks.flatten = head ++ rest) :
    ∃ left later, collect mark room held chunks = .whole head left later := by
  induction chunks generalizing held with
  | nil =>
      rw [List.flatten_nil, List.append_nil] at stream
      rw [stream, endOf_of_closes nonempty closes] at missing
      cases missing
  | cons chunk chunks ih =>
      rw [List.flatten_cons, ← List.append_assoc] at stream
      rw [collect]
      cases found : endOf mark (held ++ chunk) with
      | some size =>
          obtain ⟨front, behind, same, length, closes'⟩ := closes_of_endOf nonempty found
          have unique : front = head := by
            have parts : front ++ (behind ++ chunks.flatten) = head ++ rest := by
              rw [← List.append_assoc, ← same]
              exact stream
            exact closes'.unique closes parts
          refine ⟨behind, chunks, ?_⟩
          simp only [same, ← length, List.take_left, List.drop_left, unique]
      | none =>
          have short : (held ++ chunk).length < head.length := by
            by_contra long
            have inside : head <+: held ++ chunk :=
              List.prefix_of_prefix_length_le ⟨rest, stream.symm⟩ (List.prefix_append _ _)
                (Nat.le_of_not_lt long)
            obtain ⟨more, same⟩ := inside
            rw [← same, endOf_of_closes nonempty closes] at found
            cases found
          simp only
          rw [if_neg (by omega)]
          exact ih (held ++ chunk) found stream

end Collecting

end MolidoVpn.Delimited
