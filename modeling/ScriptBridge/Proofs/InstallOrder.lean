import ScriptBridge.Proofs.NameAddressing

/-! Rows of bindings. Each binding of a row is reported once, and bindings with different keys do not affect each other:
each of them fares as it would alone, so the order of the row is immaterial. -/
namespace ScriptBridge

def Binding.key {P : Type} (binding : Binding P) : EntryKey := .ofNames binding.scope binding.name

namespace Builder
variable {P : Type}

def failures (answer : Binding P → Except BindError EntryKey) (bindings : List (Binding P)) :
    List (String × BindError) :=
  bindings.filterMap fun binding =>
    match answer binding with
    | .ok _ => none
    | .error e => some (binding.label, e)

/-- Each binding is reported once, in order: under its key if it was installed, and else with its label and an error. -/
inductive Reported : List (Binding P) → List EntryKey → List (String × BindError) → Prop
  | nil : Reported [] [] []
  | installed {bindings installed failed} (binding : Binding P) (rest : Reported bindings installed failed) :
      Reported (binding :: bindings) (binding.key :: installed) failed
  | failed {bindings installed failed} (binding : Binding P) (e : BindError) (rest : Reported bindings installed failed) :
      Reported (binding :: bindings) installed ((binding.label, e) :: failed)

/-- A binding that is registered is registered under its key. -/
theorem register_key {b : Builder P} {binding : Binding P} {key : EntryKey} (h : (b.register binding).result = .ok key) :
    key = binding.key := by
  obtain ⟨entry, hm, rfl⟩ := exists_publish_mem_accepts (b := b) (r := .register binding) (Outcome.map_ok h)
  have label := Request.label?_of_asked (publish_mem_accepts.mp hm).1.asked
  obtain ⟨hs, hn⟩ := Prod.mk.inj (Option.some.inj label)
  rw [Binding.key, hs, hn]
  rfl

private theorem install_reported (b : Builder P) (bindings : List (Binding P)) :
    Reported bindings (b.install bindings).1.installed (b.install bindings).1.failed := by
  induction bindings generalizing b with
  | nil => exact .nil
  | cons binding rest ih =>
    have rest := ih (b.register binding).builder
    cases hr : (b.register binding).result with
    | ok key =>
      rw [install, hr, register_key hr]
      exact .installed binding rest
    | error e =>
      rw [install, hr]
      exact .failed binding e rest

/-- Two builders treat a binding alike: they have the same settings and kinds, and the same entry under its key. -/
structure AlikeFor (binding : Binding P) (b b' : Builder P) : Prop where
  config : b'.config = b.config
  kinds : b'.kinds = b.kinds
  entry : b'.entries.find? binding.key = b.entries.find? binding.key

/-- What comes of a registration hangs on the entry under its own key only. -/
theorem AlikeFor.register {binding : Binding P} {b b' : Builder P} (h : AlikeFor binding b b') :
    (b'.register binding).result = (b.register binding).result ∧
      (b'.register binding).reports = (b.register binding).reports ∧
      (b'.register binding).builder.entries.find? binding.key =
        (b.register binding).builder.entries.find? binding.key := by
  obtain ⟨config, kinds, entries⟩ := b
  obtain ⟨config', kinds', entries'⟩ := b'
  obtain ⟨hc, hk, he⟩ := h
  dsimp only at hc hk he
  subst hc hk
  have checks : nativeEntry ⟨config', kinds', entries'⟩ binding = nativeEntry ⟨config', kinds', entries⟩ binding := rfl
  rw [Builder.register, Builder.register, checks]
  cases ho : nativeEntry ⟨config', kinds', entries⟩ binding with
  | error e => exact ⟨rfl, rfl, he⟩
  | ok entry =>
    have key : entry.key = binding.key := by
      have label := Request.label?_of_asked (nativeEntry_eq_ok_iff.mp ho).asked
      obtain ⟨hs, hn⟩ := Prod.mk.inj (Option.some.inj label)
      rw [Binding.key, hs, hn]
      rfl
    simp only [publish, key, he]
    cases entries.find? binding.key with
    | none => simp [Directory.find?_insert]
    | some existing =>
      cases config'.duplicatePolicy with
      | reject => exact ⟨rfl, rfl, he⟩
      | lastWins => simp [Directory.find?_insert]

private theorem register_config (b : Builder P) (binding : Binding P) :
    (b.register binding).builder.config = b.config := b.serve_config (.register binding)

private theorem register_kinds (b : Builder P) (binding : Binding P) :
    (b.register binding).builder.kinds = b.kinds :=
  b.serve_kinds (r := .register binding) (by intro t k h; cases h)

private theorem find?_register_of_ne (b : Builder P) {binding : Binding P} {key : EntryKey} (h : key ≠ binding.key) :
    (b.register binding).builder.entries.find? key = b.entries.find? key :=
  find?_serve_of_ne (r := .register binding) rfl h

/-- A row of bindings, installed after other requests, comes to what each of them alone would come to. -/
structure EachAlone (b : Builder P) (bindings : List (Binding P)) (o : InstallReport × List Diagnostic × Builder P) :
    Prop where
  installed : o.1.installed = bindings.filterMap fun binding => (b.register binding).result.toOption
  failed : o.1.failed = failures (fun binding => (b.register binding).result) bindings
  reports : o.2.1 = bindings.flatMap fun binding => (b.register binding).reports
  published : ∀ binding ∈ bindings,
    o.2.2.entries.find? binding.key = (b.register binding).builder.entries.find? binding.key

/-- Under the other keys, a row of bindings leaves the entries alone. -/
theorem find?_install_of_ne (b : Builder P) {bindings : List (Binding P)} {key : EntryKey}
    (h : ∀ binding ∈ bindings, key ≠ binding.key) : (b.install bindings).2.2.entries.find? key = b.entries.find? key := by
  induction bindings generalizing b with
  | nil => rfl
  | cons binding rest ih =>
    refine (ih (b.register binding).builder fun x hx => h x (List.mem_cons_of_mem _ hx)).trans ?_
    exact b.find?_register_of_ne (h binding List.mem_cons_self)

private theorem install_config (b : Builder P) (bindings : List (Binding P)) :
    (b.install bindings).2.2.config = b.config := by
  rw [install_builder]
  exact b.serveAll_config _

private theorem install_kinds (b : Builder P) (bindings : List (Binding P)) :
    (b.install bindings).2.2.kinds = b.kinds := by
  induction bindings generalizing b with
  | nil => rfl
  | cons binding rest ih => exact (ih (b.register binding).builder).trans (b.register_kinds binding)

/-- Bindings with different keys do not affect each other. -/
theorem install_eachAlone {b b' : Builder P} {bindings : List (Binding P)} (distinct : (bindings.map Binding.key).Nodup)
    (alike : ∀ binding ∈ bindings, AlikeFor binding b b') : EachAlone b bindings (b'.install bindings) := by
  induction bindings generalizing b' with
  | nil => exact ⟨rfl, rfl, rfl, fun _ h => nomatch h⟩
  | cons binding rest ih =>
    rw [List.map_cons, List.nodup_cons] at distinct
    have other : ∀ x ∈ rest, x.key ≠ binding.key := by
      intro x hx same
      exact distinct.1 (List.mem_map.mpr ⟨x, hx, same⟩)
    obtain ⟨result, reports, entry⟩ := (alike binding List.mem_cons_self).register
    -- the rest of the row meets the same settings, kinds and entries as it would alone
    have still : ∀ x ∈ rest, AlikeFor x b (b'.register binding).builder := by
      intro x hx
      obtain ⟨hc, hk, he⟩ := alike x (List.mem_cons_of_mem _ hx)
      refine ⟨(b'.register_config binding).trans hc, (b'.register_kinds binding).trans hk, ?_⟩
      rw [b'.find?_register_of_ne (other x hx), he]
    have later := ih distinct.2 still
    constructor
    · rw [install, List.filterMap_cons, ← result]
      cases (b'.register binding).result with
      | ok key => exact congrArg (key :: ·) later.installed
      | error e => exact later.installed
    · rw [install, failures, List.filterMap_cons, ← result]
      cases (b'.register binding).result with
      | ok key => exact later.failed
      | error e => exact congrArg ((binding.label, e) :: ·) later.failed
    · rw [install, List.flatMap_cons, ← reports, ← later.reports]
    · intro x hx
      obtain rfl | hx := List.mem_cons.mp hx
      · rw [← entry]
        exact find?_install_of_ne _ fun y hy => (other y hy).symm
      · exact later.published x hx

/-- Two rows of bindings come to the same: the same entries stand after them, each binding fares the same, and the same
is reported, each time in the order of the row. -/
structure SameInstall (b : Builder P) (xs ys : List (Binding P)) : Prop where
  entries : ∀ key, (b.install ys).2.2.entries.find? key = (b.install xs).2.2.entries.find? key
  config : (b.install ys).2.2.config = (b.install xs).2.2.config
  kinds : (b.install ys).2.2.kinds = (b.install xs).2.2.kinds
  /-- There is one answer to each binding, a failure or its own key, and both reports list these answers. -/
  answers : ∃ answer : Binding P → Except BindError EntryKey,
    (∀ binding key, answer binding = .ok key → key = binding.key) ∧
      ∀ row ∈ [xs, ys], (b.install row).1.installed = row.filterMap (fun binding => (answer binding).toOption) ∧
        (b.install row).1.failed = failures answer row
  reports : (b.install ys).2.1.Perm (b.install xs).2.1

structure InstallsInAnyOrder (b : Builder P) : Prop where
  /-- The order of bindings with different keys is immaterial. -/
  permuted : ∀ xs ys : List (Binding P), xs.Perm ys → (xs.map Binding.key).Nodup → SameInstall b xs ys
  /-- What comes of each of them is what would come of it alone. -/
  alone : ∀ xs : List (Binding P), (xs.map Binding.key).Nodup → EachAlone b xs (b.install xs)
  /-- Every row is reported binding by binding, also one with repeated keys. -/
  reported : ∀ xs : List (Binding P), Reported xs (b.install xs).1.installed (b.install xs).1.failed
  isOk : ∀ xs : List (Binding P), (b.install xs).1.isOk = true ↔ (b.install xs).1.failed = []

private theorem sameInstall {b : Builder P} {xs ys : List (Binding P)} (perm : xs.Perm ys)
    (distinct : (xs.map Binding.key).Nodup) : SameInstall b xs ys := by
  have alike : ∀ binding : Binding P, AlikeFor binding b b := fun binding => ⟨rfl, rfl, rfl⟩
  have hx := install_eachAlone distinct fun binding _ => alike binding
  have hy := install_eachAlone ((perm.map Binding.key).nodup_iff.mp distinct) fun binding _ => alike binding
  constructor
  · intro key
    by_cases taken : ∃ binding ∈ xs, binding.key = key
    · obtain ⟨binding, hb, rfl⟩ := taken
      rw [hx.published binding hb, hy.published binding (perm.mem_iff.mp hb)]
    · have free : ∀ binding ∈ xs, key ≠ binding.key := by
        rintro binding hb rfl
        exact taken ⟨binding, hb, rfl⟩
      rw [b.find?_install_of_ne free, b.find?_install_of_ne fun binding hb => free binding (perm.mem_iff.mpr hb)]
  · rw [install_config, install_config]
  · rw [install_kinds, install_kinds]
  · refine ⟨fun binding => (b.register binding).result, fun binding key h => register_key h, fun row hr => ?_⟩
    obtain rfl | rfl : row = xs ∨ row = ys := by simpa using hr
    · exact ⟨hx.installed, hx.failed⟩
    · exact ⟨hy.installed, hy.failed⟩
  · rw [hx.reports, hy.reports]
    exact perm.symm.flatMap_right _

/-- Whatever was registered before, and whether duplicates are refused or not, bindings with different keys can be
installed in any order. -/
theorem installs_in_any_order (b : Builder P) : InstallsInAnyOrder b := by
  constructor
  · intro xs ys perm distinct
    exact sameInstall perm distinct
  · intro xs distinct
    exact install_eachAlone distinct fun binding _ => ⟨rfl, rfl, rfl⟩
  · intro xs
    exact install_reported b xs
  · intro xs
    exact List.isEmpty_iff

end Builder
end ScriptBridge
