import ScriptBridge.Proofs.DescriptorTokens
import ScriptBridge.BindError

/-! An attribute keeps the signature of its item: the item stays as it is, and the one function after it is seen by the
same and calls the binding with the types of the item's parameters. -/
namespace ScriptBridge.Attribute

open Source (Item Place Parameter Receiver Token TextLiteral readItem spelling grouped)

def Expansion.tokens (x : Expansion) : List Token := x.kept.tokens ++ x.descriptor.tokens

private theorem refuse_bind_eq_ok {α : Type} {r : Rejection} {broken : Bool} {f : Unit → Except Rejection α} {a : α} :
    (refuse r broken >>= f) = .ok a ↔ broken = false ∧ f () = .ok a := by
  cases broken <;> simp [refuse, bind, Except.bind]

structure Bindable (s : Source.Signature) : Prop where
  synchronous : s.isAsync = false
  concrete : s.generics = []
  fixed : s.isVariadic = false
  few : s.types.length ≤ maxTypedParameters

theorem expandFunction_eq_ok {settings : Settings} {item : Item} {x : Expansion}
    (h : expandFunction settings item = .ok x) :
    Bindable item.signature ∧ settings.cls = none ∧ item.signature.receiver? = none ∧
      x = ⟨item, ⟨item.visibility, .function, item.signature.name, scriptName settings item.signature,
        item.signature.types⟩⟩ := by
  simp only [expandFunction, checkSignature, boundTypes, bind_assoc, pure_bind, refuse_bind_eq_ok] at h
  obtain ⟨no_class, synchronous, concrete, fixed, no_receiver, few, -, same⟩ := h
  cases same
  exact ⟨⟨synchronous, by simpa using concrete, fixed, by simpa using few⟩, by simpa using no_class,
    by simpa using no_receiver, rfl⟩

theorem expandMethod_eq_ok {settings : Settings} {item : Item} {x : Expansion}
    (h : expandMethod settings item = .ok x) :
    Bindable item.signature ∧ ∃ isMutable,
      item.signature.parameters.head?.bind Parameter.receiver? = some ⟨true, isMutable, false⟩ ∧
      x = ⟨item, ⟨item.visibility, .method (if isMutable then .exclusive else .shared) settings.cls,
        item.signature.name, scriptName settings item.signature, item.signature.types⟩⟩ := by
  simp only [expandMethod, checkSignature, boundTypes, accessOf, bind_assoc, pure_bind, refuse_bind_eq_ok] at h
  obtain ⟨synchronous, concrete, fixed, h⟩ := h
  split at h
  · cases h
  · rename_i receiver first
    simp only [refuse_bind_eq_ok] at h
    obtain ⟨borrowed, few, -, same⟩ := h
    cases same
    obtain ⟨isBorrowed, isMutable, hasType⟩ := receiver
    obtain ⟨rfl, rfl⟩ : isBorrowed = true ∧ hasType = false := by simpa using borrowed
    exact ⟨⟨synchronous, by simpa using concrete, fixed, by simpa using few⟩, isMutable, first, rfl⟩

theorem mapError_eq_ok {ε ε' α : Type} {f : ε → ε'} {x : Except ε α} {a : α} : x.mapError f = .ok a ↔ x = .ok a := by
  cases x with
  | ok b => constructor <;> rintro ⟨⟩ <;> rfl
  | error e => constructor <;> rintro ⟨⟩

/-- What an expansion that succeeds was made from, and by which of the two ways. -/
theorem expand_eq_ok {place : Place} {settings item : String} {x : Expansion} (h : expand place settings item = .ok x) :
    ∃ s ts i, Settings.ofText settings = .ok s ∧ Source.scan item = some ts ∧ readItem place ts = some i ∧
      (match place with
        | .free => expandFunction s i
        | .member => expandMethod s i) = .ok x := by
  obtain ⟨s, hs, h⟩ := bind_eq_ok h
  split at h
  · rename_i i read
    obtain ⟨ts, scanned, read⟩ := Option.bind_eq_some_iff.mp read
    exact ⟨s, ts, i, mapError_eq_ok.mp hs, scanned, read, mapError_eq_ok.mp h⟩
  · cases h

theorem readSettings_of_ofText {text : String} {s : Settings} (h : Settings.ofText text = .ok s) :
    ∃ ts given, Source.scan text = some ts ∧ readSettings ts = .ok given ∧ s = Settings.ofList given := by
  unfold Settings.ofText at h
  split at h
  · cases h
  · rename_i ts scanned
    cases read : readSettings ts with
    | error e => rw [read] at h; cases h
    | ok given => rw [read] at h; cases h; exact ⟨ts, given, scanned, read, rfl⟩

structure KeepsSignature (place : Place) (settings item : String) (x : Expansion) : Prop where
  /-- The item comes first, with all its tokens, and then one more. -/
  kept : ∃ ts, Source.scan item = some ts ∧ readItem place ts = some x.kept ∧ x.tokens = ts ++ x.descriptor.tokens
  /-- Its parameters are those that its tokens declare. -/
  laid : x.kept.Laid
  /-- The other item is a function without parameters, seen by the same, of the name of the first with an ending. -/
  descriptor : ∃ named, readItem place x.descriptor.tokens = some ⟨x.descriptor.tokens, x.kept.visibility,
    ⟨false, false, ⟨false, x.kept.signature.name.name ++ "_binding", named⟩, [], [], false⟩⟩
  /-- Its body is the call of a constructor of bindings, with the tuple of the argument types. -/
  body : x.descriptor.body = spelling (grouped .curly x.descriptor.call)
  /-- There are no further arguments, and only so many typed parameters. -/
  fixed : x.kept.signature.isVariadic = false ∧ x.kept.signature.types.length ≤ 12
  /-- The tuple of a function has the types of its parameters, which are all typed. -/
  function : place = .free → x.kept.signature.parameters = x.descriptor.tuple.map .typed
  /-- That of a method has the types of all its parameters but the first, which is `&self` or `&mut self`, after the use
  of that. -/
  method : place = .member → ∃ isMutable,
    x.kept.signature.parameters = .receiver ⟨true, isMutable, false⟩ :: x.kept.signature.types.map .typed ∧
    x.descriptor.tuple = Access.tokens (if isMutable then .exclusive else .shared) :: x.kept.signature.types
  /-- The class that is set last is passed on, if there is one. -/
  passed : ∃ ts given, Source.scan settings = some ts ∧ readSettings ts = .ok given ∧
    x.descriptor.cls? = (given.filterMap Setting.cls?).getLast?

/-- The types of the parameters close their brackets. -/
theorem closed_types {i : Item} (laid : i.Laid) (fixed : i.signature.isVariadic = false) :
    ∀ type ∈ i.signature.types, Source.Closed type := by
  obtain ⟨_, _, _, _, _, -, -, listed⟩ := laid
  intro type ht
  obtain ⟨p, hp, typed⟩ := List.mem_filterMap.mp ht
  obtain ⟨ts, declared⟩ := (listed fixed).exists_declares p hp
  cases declared with
  | borrowed => cases typed
  | owned => cases typed
  | typed closed => cases typed; exact closed

theorem keeps_signature {place : Place} {settings item : String} {x : Expansion}
    (h : expand place settings item = .ok x) : KeepsSignature place settings item x := by
  obtain ⟨s, ts, i, hs, scanned, read, h⟩ := expand_eq_ok h
  obtain ⟨_, given, settingsScanned, settingsRead, rfl⟩ := readSettings_of_ofText hs
  obtain ⟨rfl, laid, visible, later⟩ := Source.readItem_laid read
  have parameters := Source.Signature.parameters_eq later
  cases place with
  | free =>
    obtain ⟨bindable, no_class, no_receiver, rfl⟩ := expandFunction_eq_ok h
    exact
      { kept := ⟨i.tokens, scanned, read, rfl⟩
        laid := laid
        descriptor := ⟨_, readItem_tokens .free visible (closed_types laid bindable.fixed)⟩
        body := (Descriptor.spelling_call _).symm
        fixed := ⟨bindable.fixed, bindable.few⟩
        function := fun _ => Source.Signature.map_typed_of_no_receiver (List.findSome?_eq_none_iff.mp no_receiver)
        method := by rintro ⟨⟩
        passed := ⟨_, given, settingsScanned, settingsRead, no_class.symm⟩ }
  | member =>
    obtain ⟨bindable, isMutable, first, rfl⟩ := expandMethod_eq_ok h
    rw [first] at parameters
    exact
      { kept := ⟨i.tokens, scanned, read, rfl⟩
        laid := laid
        descriptor := ⟨_, readItem_tokens .member visible (closed_types laid bindable.fixed)⟩
        body := (Descriptor.spelling_call _).symm
        fixed := ⟨bindable.fixed, bindable.few⟩
        function := by rintro ⟨⟩
        method := fun _ => ⟨isMutable, parameters, rfl⟩
        passed := ⟨_, given, settingsScanned, settingsRead, rfl⟩ }

section Instance

private def moveSettings : String := "name = \"Move\", class = \"Body\""

private def moveItem : String :=
  "pub(in crate::a) fn r#move(&'a mut self, (a, b): (u8, Vec<i32>), mut c: &'static str) -> i32 " ++
    "where u8: Copy \x7b 0 \x7d"

/-- A raw name, a receiver with a lifetime, and parameters behind patterns. -/
theorem keeps_signature_move : ∃ x, expand .member moveSettings moveItem = .ok x ∧
    KeepsSignature .member moveSettings moveItem x ∧
    x.descriptor.name = "move_binding" ∧ spelling x.descriptor.visibility = "pub(incrate::a)" ∧
    x.descriptor.tuple.map spelling = ["::hostbind_engine::Exclusive", "(u8,Vec<i32>)", "&'staticstr"] := by
  have accepted : (expand .member moveSettings moveItem).toOption.map (fun x =>
      (x.descriptor.name, spelling x.descriptor.visibility, x.descriptor.tuple.map spelling)) =
      some ("move_binding", "pub(incrate::a)", ["::hostbind_engine::Exclusive", "(u8,Vec<i32>)", "&'staticstr"]) := by
    decide +kernel
  cases h : expand .member moveSettings moveItem with
  | error e =>
    rw [h] at accepted
    cases accepted
  | ok x =>
    rw [h] at accepted
    obtain ⟨name, visibility, tuple⟩ : _ ∧ _ ∧ _ := by simpa [Except.toOption] using accepted
    exact ⟨x, rfl, keeps_signature h, name, visibility, tuple⟩

end Instance

end ScriptBridge.Attribute
