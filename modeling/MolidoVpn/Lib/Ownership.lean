import Mathlib.Logic.Function.Basic

/-!
Resources of several kinds behind handles, each with exactly one owner: adding
a resource together with its owner and removing both keeps the two sides in a
one-to-one correspondence.
-/

namespace MolidoVpn.Ownership

universe u v w

variable {Id : Type u} {Handle : Type v} {Kind : Type w}

/-- Every owner's handle leads to a resource of its kind, no two owners share a handle, and every
resource is owned. -/
structure Owned (slots : Handle → Option Kind) (owners : Id → Option (Kind × Handle)) :
    Prop where
  held : ∀ id kind handle, owners id = some (kind, handle) → slots handle = some kind
  distinct : ∀ id other kind kind' handle, owners id = some (kind, handle) →
    owners other = some (kind', handle) → id = other
  owned : ∀ handle kind, slots handle = some kind → ∃ id, owners id = some (kind, handle)

namespace Owned

variable {slots : Handle → Option Kind} {owners : Id → Option (Kind × Handle)}

theorem empty : Owned (fun _ : Handle => (none : Option Kind)) (fun _ : Id => none) :=
  { held := fun _ _ _ absent => by cases absent
    distinct := fun _ _ _ _ _ absent => by cases absent
    owned := fun _ _ absent => by cases absent }

variable [DecidableEq Id] [DecidableEq Handle]

theorem add (before : Owned slots owners) {id : Id} {handle : Handle} (kind : Kind)
    (newId : owners id = none) (unused : slots handle = none) :
    Owned (Function.update slots handle (some kind))
      (Function.update owners id (some (kind, handle))) := by
  have used {other : Id} {otherKind : Kind} {at_ : Handle}
      (found : owners other = some (otherKind, at_)) : at_ ≠ handle := by
    rintro rfl
    rw [before.held other otherKind at_ found] at unused
    cases unused
  refine ⟨?_, ?_, ?_⟩
  · intro other otherKind at_ found
    by_cases here : other = id
    · subst here
      rw [Function.update_self, Option.some.injEq, Prod.mk.injEq] at found
      rw [← found.2, ← found.1, Function.update_self]
    · rw [Function.update_of_ne here] at found
      rw [Function.update_of_ne (used found)]
      exact before.held other otherKind at_ found
  · intro first second kind' kind'' at_ foundFirst foundSecond
    by_cases hereFirst : first = id
    · by_cases hereSecond : second = id
      · rw [hereFirst, hereSecond]
      · subst hereFirst
        rw [Function.update_self, Option.some.injEq, Prod.mk.injEq] at foundFirst
        rw [Function.update_of_ne hereSecond] at foundSecond
        exact absurd foundFirst.2.symm (used foundSecond)
    · rw [Function.update_of_ne hereFirst] at foundFirst
      by_cases hereSecond : second = id
      · subst hereSecond
        rw [Function.update_self, Option.some.injEq, Prod.mk.injEq] at foundSecond
        exact absurd foundSecond.2.symm (used foundFirst)
      · rw [Function.update_of_ne hereSecond] at foundSecond
        exact before.distinct first second kind' kind'' at_ foundFirst foundSecond
  · intro at_ otherKind found
    by_cases here : at_ = handle
    · subst here
      rw [Function.update_self, Option.some.injEq] at found
      exact ⟨id, by rw [Function.update_self, found]⟩
    · rw [Function.update_of_ne here] at found
      obtain ⟨other, owns⟩ := before.owned at_ otherKind found
      have different : other ≠ id := by
        rintro rfl
        rw [newId] at owns
        cases owns
      exact ⟨other, by rw [Function.update_of_ne different, owns]⟩

theorem remove (before : Owned slots owners) {id : Id} {kind : Kind} {handle : Handle}
    (owns : owners id = some (kind, handle)) :
    Owned (Function.update slots handle none) (Function.update owners id none) := by
  have kept {other : Id} {otherKind : Kind} {at_ : Handle}
      (found : Function.update owners id none other = some (otherKind, at_)) :
      owners other = some (otherKind, at_) ∧ other ≠ id := by
    by_cases here : other = id
    · subst here
      rw [Function.update_self] at found
      cases found
    · rw [Function.update_of_ne here] at found
      exact ⟨found, here⟩
  refine ⟨?_, ?_, ?_⟩
  · intro other otherKind at_ found
    obtain ⟨was, different⟩ := kept found
    have elsewhere : at_ ≠ handle := by
      rintro rfl
      exact different (before.distinct other id otherKind kind at_ was owns)
    rw [Function.update_of_ne elsewhere]
    exact before.held other otherKind at_ was
  · intro first second kind' kind'' at_ foundFirst foundSecond
    exact before.distinct first second kind' kind'' at_ (kept foundFirst).1 (kept foundSecond).1
  · intro at_ otherKind found
    by_cases here : at_ = handle
    · subst here
      rw [Function.update_self] at found
      cases found
    · rw [Function.update_of_ne here] at found
      obtain ⟨other, was⟩ := before.owned at_ otherKind found
      have different : other ≠ id := by
        rintro rfl
        rw [owns, Option.some.injEq, Prod.mk.injEq] at was
        exact here was.2.symm
      exact ⟨other, by rw [Function.update_of_ne different, was]⟩

end Owned

end MolidoVpn.Ownership
