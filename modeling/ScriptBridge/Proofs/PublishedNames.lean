import ScriptBridge.Proofs.AcceptedItems
import ScriptBridge.Proofs.CallOutcome
import ScriptBridge.Proofs.EntryLayout

/-! The names under which accepted items are published. Without a name setting an item has its own name as it is spelled,
with the mark of a raw name, which the name of its descriptor never has. A class that is set may be empty, and then the
method stands in the global scope, where it is run without an object. -/
namespace ScriptBridge

def Registry.HasCode {P : Type} (r : Registry P) (key : EntryKey) (adapter : Adapter P) : Prop :=
  (r.find? key).bind (·.adapter?) = some adapter

/-- An accepted registration publishes its code under its scope and name. -/
theorem Builder.register_placed {P : Type} {b : Builder P} {binding : Binding P} {key : EntryKey}
    (h : (b.register binding).result = .ok key) :
    key = .ofNames binding.scope binding.name ∧ (b.register binding).builder.build.HasCode key binding.adapter := by
  have served := b.served (.register binding)
  have ok : ((b.register binding).map some).result = .ok (some key) := Outcome.map_ok h
  have left : ((b.register binding).map some).builder = (b.register binding).builder := rfl
  simp only [serve] at served
  rw [← left]
  generalize (b.register binding).map some = o at ok served
  cases served with
  | unfit | conflict => cases ok
  | @published _ entry fits free =>
    cases ok
    obtain ⟨-, ⟨binding', same, -, native⟩ | ⟨_, _, _, _, _, same, -⟩⟩ := Request.asked?_cases fits.asked
    · cases same
      refine ⟨congrArg₂ EntryKey.ofNames native.names.1 native.names.2, ?_⟩
      have found : (b.entries.insert entry.key entry).find? entry.key = some entry := by
        rw [Directory.find?_insert, if_pos rfl]
      show ((b.entries.insert entry.key entry).find? entry.key).bind _ = _
      rw [found]
      exact native.adapter
    · cases same

/-- A method in the global scope gets no object and fails, and nothing is changed. -/
theorem World.executeNative_method_global {P H : Type} {w : World P H} {run : Runner P H} {id : ObjectId} {key : EntryKey}
    {m : HostMethod} {name className : String} (has : w.registry.HasCode key (.method m name className))
    (global : key.scope = globalScope) (context : EntryKey) : w.executeNative run id key context = (false, w) := by
  have dispatched : ∃ e, w.dispatch run (.method m name className) context none = (.error e, w) := by
    simp only [dispatch]
    cases w.table? context with
    | none => exact ⟨_, rfl⟩
    | some table => exact ⟨_, rfl⟩
  obtain ⟨e, failed⟩ := dispatched
  rw [executeNative_free has (.inr global), failed]
  rfl

namespace Attribute

open Source (Item Place TextLiteral readItem)

/-- The binding that the descriptor of a method makes for it: in the class that is set, or else in its own. -/
def Descriptor.methodBinding {P : Type} (d : Descriptor) (m : HostMethod) : Binding P :=
  match d.cls? with
  | none => .method d.scriptName.value m
  | some cls => .methodIn cls.value d.scriptName.value m

structure Published (place : Place) (given : List Setting) (x : Expansion) : Prop where
  nonempty : x.descriptor.scriptName.value ≠ ""
  /-- The name that is set last counts. -/
  named : ∀ l, (given.filterMap Setting.name?).getLast? = some l → x.descriptor.scriptName = l
  /-- Without one it is the item's as it is spelled. -/
  unnamed : given.filterMap Setting.name? = [] → x.descriptor.scriptName.value = x.kept.signature.name.spelling
  descriptor : x.descriptor.name = x.kept.signature.name.name ++ "_binding"
  /-- The name of the descriptor goes with that in scripts unless the item has a raw name. -/
  matched : given.filterMap Setting.name? = [] →
    (x.descriptor.name = x.descriptor.scriptName.value ++ "_binding" ↔ x.kept.signature.name.raw = false)
  function : place = .free → x.descriptor.cls? = none
  /-- The class of a method is the last one, whatever it is. -/
  method : place = .member → x.descriptor.cls? = (given.filterMap Setting.cls?).getLast?
  /-- A method stands in the scope of that class, or else of its own. -/
  placed : ∀ {P : Type} (m : HostMethod) (b : Builder P) key,
    (b.register (x.descriptor.methodBinding m)).result = .ok key →
      key.scope = nameHash ((x.descriptor.cls?.map TextLiteral.value).getD m.cls.name) ∧
        (b.register (x.descriptor.methodBinding m)).builder.build.HasCode key (x.descriptor.methodBinding m).adapter
  /-- In the global scope it gets no object, whichever it is called on, and fails. -/
  unreceived : ∀ {P H : Type} (m : HostMethod) (w : World P H) key,
    w.registry.HasCode key (x.descriptor.methodBinding m).adapter → key.scope = globalScope →
      ∀ (run : Runner P H) id context, w.executeNative run id key context = (false, w)

namespace Descriptor
variable {P : Type} (d : Descriptor) (m : HostMethod)

private theorem scope_methodBinding :
    (d.methodBinding m : Binding P).scope = (d.cls?.map TextLiteral.value).getD m.cls.name := by
  unfold methodBinding
  cases d.cls? <;> rfl

private theorem adapter_methodBinding :
    ∃ name className, (d.methodBinding m : Binding P).adapter = .method m name className := by
  unfold methodBinding
  cases d.cls? <;> exact ⟨_, _, rfl⟩

end Descriptor

section Names
variable {given : List Setting} {s : Settings}

private theorem length_spelling (i : Source.Identifier) :
    i.spelling.length = (if i.raw then 2 else 0) + i.name.length := by
  unfold Source.Identifier.spelling Source.wordSpelling
  cases i.raw with
  | false => simp
  | true =>
    have mark : Source.rawMark.length = 2 := by decide
    simp [mark]

private theorem spelling_eq_name_iff (i : Source.Identifier) : i.spelling = i.name ↔ i.raw = false := by
  constructor
  · intro same
    have length := length_spelling i
    rw [same] at length
    by_contra raw
    rw [if_pos (by simpa using raw)] at length
    omega
  · intro plain
    simp [Source.Identifier.spelling, Source.wordSpelling, plain]

private theorem spelling_ne_empty (i : Source.Identifier) : i.spelling ≠ "" := by
  intro empty
  have length := length_spelling i
  rw [empty, String.length_empty] at length
  exact i.name_ne (String.length_eq_zero_iff.mp (by omega))

private theorem Gives.exists_written {ts : List Source.Token} (h : Gives ts given) :
    ∀ setting ∈ given, ∃ item, setting.WrittenAs item := by
  induction h with
  | nil => exact fun setting among => absurd among List.not_mem_nil
  | last written => exact List.forall_mem_singleton.mpr ⟨_, written⟩
  | more written _ _ ih => exact List.forall_mem_cons.mpr ⟨⟨_, written⟩, ih⟩

/-- No name that is set is empty. -/
theorem Gives.name_ne_empty {ts : List Source.Token} (h : Gives ts given) {l : TextLiteral}
    (set : l ∈ given.filterMap Setting.name?) : l.value ≠ "" := by
  obtain ⟨setting, among, named⟩ := List.mem_filterMap.mp set
  obtain ⟨item, written⟩ := h.exists_written setting among
  cases written with
  | name nonempty =>
    cases named
    exact nonempty
  | cls => cases named

private theorem scriptName_value_ne_empty {s : Settings} (sig : Source.Signature) (h : ∀ l ∈ s.name, l.value ≠ "") :
    (scriptName s sig).value ≠ "" := by
  unfold scriptName
  cases named : s.name with
  | none => exact spelling_ne_empty sig.name
  | some l => exact h l named

end Names

/-- What an accepted item and its settings come to, for a function and for a method. -/
theorem descriptor_of_accepted {place : Place} {settings item : String} {x : Expansion}
    (h : expand place settings item = .ok x) :
    ∃ ts given, Source.scan settings = some ts ∧ Gives ts given ∧ x.descriptor.item = x.kept.signature.name ∧
      x.descriptor.scriptName = scriptName (.ofList given) x.kept.signature ∧
      x.descriptor.cls? = match place with
        | .free => none
        | .member => (given.filterMap Setting.cls?).getLast? := by
  obtain ⟨s, ts, i, hs, scanned, read, made⟩ := expand_eq_ok h
  obtain ⟨ts', given, settings_scanned, settings_read, rfl⟩ := readSettings_of_ofText hs
  refine ⟨ts', given, settings_scanned, readSettings_eq_ok_iff.mp settings_read, ?_⟩
  cases place with
  | free =>
    obtain ⟨-, -, -, rfl⟩ := expandFunction_eq_ok made
    exact ⟨rfl, rfl, rfl⟩
  | member =>
    obtain ⟨-, isMutable, -, rfl⟩ := expandMethod_eq_ok made
    exact ⟨rfl, rfl, rfl⟩

/-- An accepted item is never published under the empty name, but perhaps under a raw one or in the global scope. -/
theorem published_names {place : Place} {settings item : String} {x : Expansion}
    (h : expand place settings item = .ok x) :
    ∃ ts given, Source.scan settings = some ts ∧ Gives ts given ∧ Published place given x := by
  obtain ⟨ts, given, scanned, gives, item_name, script_name, cls⟩ := descriptor_of_accepted h
  have unnamed (none : given.filterMap Setting.name? = []) :
      x.descriptor.scriptName.value = x.kept.signature.name.spelling := by
    rw [script_name, scriptName, Settings.ofList, none]
    rfl
  have descriptor : x.descriptor.name = x.kept.signature.name.name ++ "_binding" := by
    rw [Descriptor.name, item_name]
  refine ⟨ts, given, scanned, gives, ?_⟩
  exact
    { nonempty := by
        rw [script_name]
        exact scriptName_value_ne_empty _ fun l last => gives.name_ne_empty (List.mem_of_getLast? last)
      named := by
        intro l last
        rw [script_name, scriptName, Settings.ofList, last]
        rfl
      unnamed := unnamed
      descriptor := descriptor
      matched := by
        intro none
        rw [descriptor, unnamed none, String.append_left_inj, ← spelling_eq_name_iff, eq_comm]
      function := by
        rintro rfl
        exact cls
      method := by
        rintro rfl
        exact cls
      placed := by
        intro P m b key accepted
        obtain ⟨rfl, has⟩ := Builder.register_placed accepted
        exact ⟨congrArg nameHash (x.descriptor.scope_methodBinding m), has⟩
      unreceived := by
        intro P H m w key has global run id context
        obtain ⟨name, className, method⟩ := x.descriptor.adapter_methodBinding m
        rw [method] at has
        exact World.executeNative_method_global has global context }

section Instance

private def rawItem : String := "fn r#type(&self, b: i32) {}"

/-- A method with a raw name in the empty class. -/
theorem published_names_raw : ∃ x, expand .member "class = \"\"" rawItem = .ok x ∧
    ∃ ts given, Source.scan "class = \"\"" = some ts ∧ Gives ts given ∧ Published .member given x := by
  have accepted : (expand .member "class = \"\"" rawItem).toOption.isSome = true := by
    decide +kernel
  obtain ⟨x, made⟩ := Option.isSome_iff_exists.mp accepted
  have h := toOption_eq_some made
  exact ⟨x, h, published_names h⟩

/-- It is published with the mark of its name, and its descriptor is not, and its class is empty. -/
theorem published_unaddressed : ∃ x, expand .member "class = \"\"" rawItem = .ok x ∧
    x.descriptor.scriptName.value = "r#type" ∧ x.descriptor.name = "type_binding" ∧
    x.descriptor.cls?.map TextLiteral.value = some "" := by
  have made : (expand .member "class = \"\"" rawItem).toOption.map (fun x =>
      (x.descriptor.scriptName.value, x.descriptor.name, x.descriptor.cls?.map TextLiteral.value)) =
      some ("r#type", "type_binding", some "") := by
    decide +kernel
  obtain ⟨x, made, said⟩ := Option.map_eq_some_iff.mp made
  simp only [Prod.mk.injEq] at said
  exact ⟨x, toOption_eq_some made, said⟩

end Instance

end Attribute
end ScriptBridge
