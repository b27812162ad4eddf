import Mathlib.Data.List.Nodup
import ScriptBridge.Proofs.CallOutcome
import ScriptBridge.Proofs.Publication

/-! The moves of a running host. Calls, direct calls and guards nest to any depth, and each has a slot table in use
from its beginning to its end. Code in between does whatever it likes through the setters of the tables it can reach. -/
namespace ScriptBridge

inductive Use where
  | call | invoke | guard
deriving DecidableEq

structure Activation where
  use : Use
  key : EntryKey

/-- The tables that the innermost code can reach: the one it runs on, and those it has taken guards on since. -/
def reach : List Activation → List EntryKey
  | [] => []
  | ⟨.guard, key⟩ :: rest => key :: reach rest
  | a :: _ => [a.key]

/-- One move, with the stack of activations before and after it. -/
inductive Move {P H : Type} : List Activation → World P H → List Activation → World P H → Prop where
  | write {s w key t t'} (index : Nat) (value : SlotValue) (reached : key ∈ reach s) (table : w.table? key = some t)
      (accepted : t.set index value = .ok t') : Move s w s (w.putTable key t')
  | clear {s w key t} (reached : key ∈ reach s) (table : w.table? key = some t) : Move s w s (w.putTable key t.clear)
  /-- Objects, journal and host change freely, and nothing else does. -/
  | elsewhere {s w} (objects : ObjectTable) (journal : Journal) (host : H) :
      Move s w s { w with objects, journal, host }
  | call {s w} (c : Caller P H) (target : CallTarget) (arguments : List Argument) (result : HostType)
      {p : PreparedCall P} (ready : c.Ready w target arguments result p) (free : p.entry.key ∉ w.held) :
      Move s w (⟨.call, p.entry.key⟩ :: s) (w.enter p.entry.key p.arguments)
  | invoke {s w} {entry : Entry P} {adapter : Adapter P} (arguments : List SlotValue)
      (found : w.registry.find? entry.key = some entry) (accepted : entry.Accepts adapter arguments)
      (free : entry.key ∉ w.held) : Move s w (⟨.invoke, entry.key⟩ :: s) (w.enter entry.key arguments)
  | guard {s w} {entry : Entry P} (found : w.registry.find? entry.key = some entry) (free : entry.key ∉ w.held) :
      Move s w (⟨.guard, entry.key⟩ :: s) (w.hold entry.key)
  /-- The innermost activation ends. -/
  | leave {a s w} : Move (a :: s) w s (w.release a.key)
  /-- Guards are given up in any order. -/
  | drop {s w key} (later : List Activation) (guards : ∀ a ∈ later, a.use = .guard) :
      Move (later ++ ⟨.guard, key⟩ :: s) w (later ++ s) (w.release key)

/-- The states, with their stacks, that code on top of `base` passes through from `w₀` on. It never ends what
began before it. -/
inductive During {P H : Type} (base : List Activation) (w₀ : World P H) : List Activation → World P H → Prop where
  | start : During base w₀ base w₀
  | move {s w s' w'} (before : During base w₀ s w) (step : Move s w s' w') (above : base <:+ s') : During base w₀ s' w'

def Reachable {P H : Type} (r : Registry P) (s : List Activation) (w : World P H) : Prop :=
  ∃ w₀ : World P H, w₀.registry = r ∧ w₀.held = [] ∧ During [] w₀ s w

def World.fresh {P H : Type} (r : Registry P) (host : H) : World P H := ⟨r, [], .empty, .empty, host⟩

theorem Reachable.fresh {P H : Type} (r : Registry P) (host : H) : Reachable r [] (World.fresh r host) :=
  ⟨_, rfl, rfl, .start⟩

namespace During
variable {P H : Type} {base s s' : List Activation} {w₀ w w' : World P H}

theorem suffix (h : During base w₀ s w) : base <:+ s := by
  cases h with
  | start => exact List.suffix_refl _
  | move _ _ above => exact above

theorem trans (h : During base w₀ s w) (j : During s w s' w') : During base w₀ s' w' := by
  induction j with
  | start => exact h
  | move _ step above ih => exact ih.move step (h.suffix.trans above)

theorem single (step : Move base w₀ base w) : During base w₀ base w := .move .start step (List.suffix_refl _)

/-- What code does while an activation lasts, from its beginning to its end. -/
theorem bracket {a : Activation} {w₁ w₂ : World P H} (enter : Move base w₀ (a :: base) w₁)
    (h : During (a :: base) w₁ (a :: base) w₂) : During base w₀ base (w₂.release a.key) := by
  have hin : During base w₀ (a :: base) w₁ := .move .start enter (List.suffix_cons a base)
  exact (hin.trans h).move .leave (List.suffix_refl _)

end During

/-- The tables in use are those of the activations, each in use once. -/
structure Matches {P H : Type} (s : List Activation) (w : World P H) : Prop where
  held : w.held = s.map Activation.key
  distinct : (s.map Activation.key).Nodup

namespace Matches
variable {P H : Type} {base s s' : List Activation} {w₀ w w' : World P H}

theorem begin (h : Matches s w) (a : Activation) (free : a.key ∉ w.held) (hw : w'.held = a.key :: w.held) :
    Matches (a :: s) w' := by
  refine ⟨?_, ?_⟩
  · rw [hw, h.held]
    rfl
  · rw [List.map_cons, List.nodup_cons, ← h.held]
    exact ⟨free, h.held ▸ h.distinct⟩

/-- Giving back a table ends exactly the activation that has it. -/
theorem finish {later : List Activation} {a : Activation} (h : Matches (later ++ a :: s) w) :
    Matches (later ++ s) (w.release a.key) := by
  have hd := h.distinct
  rw [List.map_append, List.map_cons, List.nodup_middle] at hd
  obtain ⟨hn, hd⟩ := List.nodup_cons.mp hd
  refine ⟨?_, by rw [List.map_append]; exact hd⟩
  have hl : a.key ∉ later.map Activation.key := fun hm => hn (List.mem_append_left _ hm)
  show w.held.erase a.key = _
  rw [h.held, List.map_append, List.map_cons, List.erase_append_right _ hl, List.erase_cons_head, List.map_append]

theorem move (h : Matches s w) (step : Move s w s' w') : Matches s' w' := by
  cases step with
  | write | clear | elsewhere => exact ⟨h.held, h.distinct⟩
  | call c target arguments result ready free => exact h.begin _ free (w.enter_rest _ _).1
  | invoke arguments found accepted free => exact h.begin _ free (w.enter_rest _ _).1
  | guard found free => exact h.begin _ free rfl
  | leave => exact @finish _ _ _ _ [] _ h
  | drop later guards => exact finish h

theorem during (h : Matches base w₀) (run : During base w₀ s w) : Matches s w := by
  induction run with
  | start => exact h
  | move _ step _ ih => exact ih.move step

/-- Code that has ended everything it began leaves the same tables in use. -/
theorem held_eq (h : Matches base w₀) (run : During base w₀ base w) : w.held = w₀.held :=
  (h.during run).held.trans h.held.symm

end Matches

theorem Reachable.matches {P H : Type} {r : Registry P} {s : List Activation} {w : World P H}
    (h : Reachable r s w) : Matches s w := by
  obtain ⟨w₀, -, hh, run⟩ := h
  have h₀ : Matches [] w₀ := ⟨hh, List.nodup_nil⟩
  exact h₀.during run

theorem Move.alike {P H : Type} {s s' : List Activation} {w w' : World P H} (step : Move s w s' w') :
    w.registry.Alike w'.registry := by
  cases step with
  | write index value reached table accepted => exact World.alike_putTable table (SlotTable.clear_set accepted)
  | clear reached table => exact World.alike_putTable table (SlotTable.clear_clear _)
  | call c target arguments result ready free => exact w.enter_alike _ _
  | invoke arguments found accepted free => exact w.enter_alike _ _
  | elsewhere | guard | leave | drop => exact .refl _

theorem During.alike {P H : Type} {base s : List Activation} {w₀ w : World P H} (run : During base w₀ s w) :
    w₀.registry.Alike w.registry := by
  induction run with
  | start => exact .refl _
  | move _ step _ ih => exact ih.trans step.alike

theorem Reachable.alike {P H : Type} {r : Registry P} {s : List Activation} {w : World P H}
    (h : Reachable r s w) : r.Alike w.registry := by
  obtain ⟨w₀, rfl, -, run⟩ := h
  exact run.alike

theorem Reachable.during {P H : Type} {r : Registry P} {s s' : List Activation} {w w' : World P H}
    (h : Reachable r s w) (run : During s w s' w') : Reachable r s' w' := by
  obtain ⟨w₀, hr, hh, before⟩ := h
  exact ⟨w₀, hr, hh, before.trans run⟩

/-- Every entry met in a reachable state stands under its own key and declares the shape of its slot table. -/
theorem Reachable.coherent {P H : Type} {config : BindConfig} {history : List (Builder.Operation P)}
    {s : List Activation} {w : World P H} (h : Reachable ((Builder.new config).after history).build s w) :
    Coherent w.registry.entries :=
  h.alike.coherent (Builder.coherent_after config history)

section Frame
variable {P H : Type} {base s s' : List Activation} {w₀ w w' : World P H} {key : EntryKey}

/-- Code reaches no table that was in use when its own activation began. -/
theorem not_mem_reach {a : Activation} (hu : a.use ≠ .guard) (above : a :: base <:+ s)
    (distinct : (s.map Activation.key).Nodup) (hk : key ∈ base.map Activation.key) : key ∉ reach s := by
  obtain ⟨later, rfl⟩ := above
  induction later with
  | nil =>
    have hn := (List.nodup_cons.mp distinct).1
    obtain ⟨use, l⟩ := a
    have hr : reach (⟨use, l⟩ :: base) = [l] := by cases use <;> first | rfl | exact absurd rfl hu
    rw [List.nil_append, hr, List.mem_singleton]
    rintro rfl
    exact hn hk
  | cons b later ih =>
    obtain ⟨hn, hd⟩ := List.nodup_cons.mp distinct
    have hm : key ∈ (later ++ a :: base).map Activation.key := by
      rw [List.map_append, List.map_cons]
      exact List.mem_append_right _ (List.mem_cons_of_mem _ hk)
    have hb : key ≠ b.key := by
      rintro rfl
      exact hn hm
    obtain ⟨use, l⟩ := b
    cases use with
    | guard => exact List.not_mem_cons_of_ne_of_not_mem hb (ih hd)
    | _ => exact List.not_mem_cons_of_ne_of_not_mem hb (List.not_mem_nil)

/-- A move leaves a table in use alone unless it reaches it. -/
theorem Move.table? (step : Move s w s' w') (hk : key ∈ w.held) (hr : key ∉ reach s) :
    w'.table? key = w.table? key := by
  cases step with
  | write index value reached table accepted =>
    rw [World.table?_putTable, if_neg]
    rintro rfl
    exact hr reached
  | clear reached table =>
    rw [World.table?_putTable, if_neg]
    rintro rfl
    exact hr reached
  | call c target arguments result ready free => exact World.enter_table?_of_held _ free hk
  | invoke arguments found accepted free => exact World.enter_table?_of_held _ free hk
  | elsewhere | guard | leave | drop => rfl

/-- While an activation lasts, what runs in it leaves alone every table that was in use when it began. -/
theorem During.table? {a : Activation} (hu : a.use ≠ .guard) (h : Matches (a :: base) w₀)
    (run : During (a :: base) w₀ s w) (hk : key ∈ base.map Activation.key) : w.table? key = w₀.table? key := by
  induction run with
  | start => rfl
  | move before step above ih =>
    have hm := h.during before
    refine (step.table? ?_ (not_mem_reach hu before.suffix hm.distinct hk)).trans ih
    rw [hm.held]
    obtain ⟨later, rfl⟩ := before.suffix
    rw [List.map_append, List.map_cons]
    exact List.mem_append_right _ (List.mem_cons_of_mem _ hk)

end Frame
end ScriptBridge
