import Mathlib.Data.List.Dedup
import ScriptBridge.Proofs.Requests

/-! Which entries stand after a history of the registration phase. Under each key it is the entry of one accepted
registration, the first or the last as the policy has it, with the default record that belongs to it and no other. -/
namespace ScriptBridge

namespace Builder
variable {P : Type}

inductive Change (P : Type) where
  | publish (entry : Entry P)
  | attach (key : EntryKey) (record : DefaultRecord)

def Request.change? (kinds : KindMap) : Request P → Option (Change P)
  | .attachDefaults key record => some (.attach key record)
  | r => (r.asked? kinds).map .publish

/-- The change that a request makes, which is the one that it asks for if it succeeds. -/
def accepts (b : Builder P) (r : Request P) : List (Change P) :=
  if (b.serve r).result.isOk then (r.change? b.kinds).toList else []

def accepted : Builder P → List (Request P) → List (Change P)
  | _, [] => []
  | b, r :: rest => b.accepts r ++ (b.serve r).builder.accepted rest

def publishedKeys (log : List (Change P)) : List EntryKey :=
  log.filterMap fun
    | .publish entry => some entry.key
    | .attach .. => none

def attachedTo (key : EntryKey) (log : List (Change P)) : List DefaultRecord :=
  log.filterMap fun
    | .publish _ => none
    | .attach l record => if l = key then some record else none

theorem publishedKeys_append (log later : List (Change P)) :
    publishedKeys (log ++ later) = publishedKeys log ++ publishedKeys later :=
  List.filterMap_append

theorem attachedTo_append (key : EntryKey) (log later : List (Change P)) :
    attachedTo key (log ++ later) = attachedTo key log ++ attachedTo key later :=
  List.filterMap_append

/-- An entry is that of a registration, given the changes before and after it: it is the only one accepted under its key
if duplicates are refused, and the last one in any case. It has the one record that came with it or after it, if any. -/
structure Stands (policy : DuplicatePolicy) (before : List (Change P)) (registered : Entry P)
    (after : List (Change P)) (e : Entry P) : Prop where
  last : registered.key ∉ publishedKeys after
  first : policy = .reject → registered.key ∉ publishedKeys before
  record : e.defaults.toList = registered.defaults.toList ++ attachedTo registered.key after
  same : e = { registered with defaults := e.defaults }

structure Ledger (policy : DuplicatePolicy) (log : List (Change P)) (entries : Directory EntryKey (Entry P)) : Prop where
  found : ∀ key, (entries.find? key).isSome = true ↔ key ∈ publishedKeys log
  stands : ∀ key e, entries.find? key = some e → ∃ before registered after,
    log = before ++ .publish registered :: after ∧ registered.key = key ∧ Stands policy before registered after e

namespace Ledger
variable {policy : DuplicatePolicy} {log : List (Change P)} {entries : Directory EntryKey (Entry P)}

theorem empty (policy : DuplicatePolicy) : Ledger (P := P) policy [] .empty :=
  ⟨fun _ => by simp [publishedKeys], fun _ _ h => nomatch h⟩

/-- Publishing an entry leaves the others and takes the place of the one under its key, which was free if duplicates
are refused. -/
theorem publish (h : Ledger policy log entries) (entry : Entry P)
    (free : policy = .reject → entries.find? entry.key = none) :
    Ledger policy (log ++ [.publish entry]) (entries.insert entry.key entry) := by
  refine ⟨fun key => ?_, fun key e he => ?_⟩
  · rw [publishedKeys_append, List.mem_append, ← h.found key, Directory.find?_insert]
    by_cases hk : key = entry.key <;> simp [hk, publishedKeys]
  · rw [Directory.find?_insert] at he
    split at he
    · rename_i hk
      cases he
      refine ⟨log, entry, [], rfl, hk.symm, List.not_mem_nil, fun hp hm => ?_, ?_, rfl⟩
      · have taken := (h.found entry.key).mpr hm
        rw [free hp] at taken
        cases taken
      · exact (List.append_nil _).symm
    · rename_i hk
      obtain ⟨before, registered, after, rfl, rfl, stands⟩ := h.stands key e he
      refine ⟨before, registered, after ++ [.publish entry], by simp, rfl, ?_, stands.first, ?_, stands.same⟩
      · rw [publishedKeys_append, List.mem_append]
        rintro (hm | hm)
        · exact stands.last hm
        · exact hk (List.mem_singleton.mp hm)
      · rw [attachedTo_append, stands.record]
        exact (congrArg _ (List.append_nil _)).symm

/-- An attached record belongs to the entry that stands at the time. -/
theorem attach (h : Ledger policy log entries) {key : EntryKey} {entry : Entry P} (record : DefaultRecord)
    (found : entries.find? key = some entry) (none : entry.defaults = none) :
    Ledger policy (log ++ [.attach key record])
      (entries.modify key fun e => { e with defaults := some record }) := by
  have keys : publishedKeys (log ++ [.attach key record]) = publishedKeys log := by
    rw [publishedKeys_append]
    exact List.append_nil _
  refine ⟨fun l => ?_, fun l e he => ?_⟩
  · rw [Directory.isSome_find?_modify, keys]
    exact h.found l
  · rw [Directory.find?_modify] at he
    split at he
    · rename_i hl
      subst hl
      rw [found] at he
      cases he
      obtain ⟨before, registered, after, rfl, rfl, stands⟩ := h.stands l entry found
      refine ⟨before, registered, after ++ [.attach registered.key record], by simp, rfl, ?_, stands.first, ?_, ?_⟩
      · rw [publishedKeys_append]
        simpa [publishedKeys] using stands.last
      · have hr := stands.record
        rw [none] at hr
        rw [attachedTo_append, ← List.append_assoc, ← hr]
        simp [attachedTo]
      · rw [stands.same]
    · rename_i hl
      obtain ⟨before, registered, after, rfl, rfl, stands⟩ := h.stands l e he
      refine ⟨before, registered, after ++ [.attach key record], by simp, rfl, ?_, stands.first, ?_, stands.same⟩
      · rw [publishedKeys_append]
        simpa [publishedKeys] using stands.last
      · rw [attachedTo_append, stands.record]
        simp [attachedTo, Ne.symm hl]

/-- There are as many entries as distinct keys of accepted registrations. -/
theorem size (h : Ledger policy log entries) : entries.size = (publishedKeys log).dedup.length := by
  have hp : entries.keys.Perm (publishedKeys log).dedup := by
    refine (List.perm_ext_iff_of_nodup entries.distinct (List.nodup_dedup _)).mpr fun key => ?_
    rw [List.mem_dedup, ← h.found key]
    exact entries.mem_keys key
  rw [← hp.length_eq]
  exact (List.length_map Prod.fst).symm

end Ledger

theorem Request.change?_of_asked {kinds : KindMap} {r : Request P} {entry : Entry P}
    (h : r.asked? kinds = some entry) : r.change? kinds = some (.publish entry) := by
  cases r with
  | attachDefaults key record => cases h
  | _ => exact congrArg (Option.map Change.publish) h

@[simp] theorem serve_config (b : Builder P) (r : Request P) : (b.serve r).builder.config = b.config := by
  have h := b.served r
  generalize b.serve r = o at h
  cases h <;> rfl

@[simp] theorem serveAll_config (b : Builder P) (requests : List (Request P)) :
    (b.serveAll requests).config = b.config := by
  induction requests generalizing b with
  | nil => rfl
  | cons r rest ih => exact (ih (b.serve r).builder).trans (b.serve_config r)

/-- Only a mapping changes the kinds. -/
theorem serve_kinds {b : Builder P} {r : Request P} (h : ∀ t k, r ≠ .mapKind t k) :
    (b.serve r).builder.kinds = b.kinds := by
  have hs := b.served r
  generalize b.serve r = o at hs ⊢
  cases hs with
  | mapped t k => exact absurd rfl (h t k)
  | unfit | conflict | published | missing | documented | unsuited | attached => rfl

/-- A request that fails leaves the builder as it was. -/
theorem serve_error {b : Builder P} {r : Request P} {e : BindError} (h : (b.serve r).result = .error e) :
    (b.serve r).builder = b := by
  have hs := b.served r
  generalize b.serve r = o at h hs ⊢
  cases hs <;> first | rfl | cases h

/-- The changes of one more request lead from the entries before it to those after it. -/
theorem Ledger.serve {b : Builder P} {log : List (Change P)} (h : Ledger b.config.duplicatePolicy log b.entries)
    (r : Request P) : Ledger b.config.duplicatePolicy (log ++ b.accepts r) (b.serve r).builder.entries := by
  have hs := b.served r
  unfold accepts
  generalize b.serve r = o at hs ⊢
  cases hs with
  | mapped t k => simpa [Except.isOk, Except.toBool, Request.change?, Request.asked?, mapKind] using h
  | published fits free =>
    rw [Request.change?_of_asked fits.asked]
    exact h.publish _ free
  | attached found none suits => exact h.attach _ found none
  | unfit | conflict | missing | documented | unsuited => simpa [fail, Except.isOk, Except.toBool] using h

theorem Ledger.serveAll {b : Builder P} {log : List (Change P)} (h : Ledger b.config.duplicatePolicy log b.entries)
    (requests : List (Request P)) :
    Ledger b.config.duplicatePolicy (log ++ b.accepted requests) (b.serveAll requests).entries := by
  induction requests generalizing b log with
  | nil =>
    rw [accepted, List.append_nil]
    exact h
  | cons r rest ih =>
    have hr := h.serve r
    rw [← b.serve_config r] at hr
    have hall := ih hr
    rw [b.serve_config r, List.append_assoc] at hall
    exact hall

def changes (config : BindConfig) (history : List (Operation P)) : List (Change P) :=
  (new config).accepted (history.flatMap Operation.requests)

theorem ledger_after (config : BindConfig) (history : List (Operation P)) :
    Ledger config.duplicatePolicy (changes config history) ((new config).after history).entries := by
  rw [after_eq_serveAll]
  exact (Ledger.empty config.duplicatePolicy).serveAll (b := new config) _

/-- An entry is that of a registration served after other requests to a new builder, but for its default record. -/
structure ComesFrom (config : BindConfig) (before : List (Request P)) (r : Request P) (registered e : Entry P) :
    Prop where
  fits : ((new config).serveAll before).Fits r registered
  accepted : (((new config).serveAll before).serve r).result = .ok (some registered.key)
  same : e = { registered with defaults := e.defaults }

/-- The changes that were made are those of the requests, each served in its turn. -/
theorem mem_accepted {b : Builder P} {requests : List (Request P)} {change : Change P} :
    change ∈ b.accepted requests ↔
      ∃ before r after, requests = before ++ r :: after ∧ change ∈ (b.serveAll before).accepts r := by
  induction requests generalizing b with
  | nil => simp [accepted]
  | cons r rest ih =>
    rw [accepted, List.mem_append, ih]
    constructor
    · rintro (h | ⟨before, r', after, rfl, h⟩)
      · exact ⟨[], r, rest, rfl, h⟩
      · exact ⟨r :: before, r', after, rfl, h⟩
    · rintro ⟨before, r', after, hr, h⟩
      cases before with
      | nil =>
        cases hr
        exact .inl h
      | cons first before =>
        cases hr
        exact .inr ⟨before, r', after, rfl, h⟩

/-- What is published fits, and is the answer to its request. -/
theorem publish_mem_accepts {b : Builder P} {r : Request P} {entry : Entry P} :
    .publish entry ∈ b.accepts r ↔ b.Fits r entry ∧ (b.serve r).result = .ok (some entry.key) := by
  have hs := b.served r
  unfold accepts
  generalize b.serve r = o at hs ⊢
  cases hs with
  | @published r e fits free =>
    rw [Request.change?_of_asked fits.asked]
    constructor
    · intro h
      obtain ⟨⟩ : Change.publish entry = .publish e := List.mem_singleton.mp h
      exact ⟨fits, rfl⟩
    · rintro ⟨fits', -⟩
      obtain rfl := Option.some.inj (fits.asked.symm.trans fits'.asked)
      exact List.mem_singleton.mpr rfl
  | mapped | unfit | conflict | missing | documented | unsuited | attached =>
    simp [fail, Except.isOk, Except.toBool, Request.change?, Request.asked?]

/-- A request that is answered with a key has published an entry under it. -/
theorem exists_publish_mem_accepts {b : Builder P} {r : Request P} {key : EntryKey}
    (h : (b.serve r).result = .ok (some key)) : ∃ entry, .publish entry ∈ b.accepts r ∧ entry.key = key := by
  have hs := b.served r
  generalize ho : b.serve r = o at h hs
  cases hs with
  | @published r e fits free =>
    obtain rfl : e.key = key := Option.some.inj (Except.ok.inj h)
    refine ⟨e, publish_mem_accepts.mpr ⟨fits, ?_⟩, rfl⟩
    rw [ho]
  | mapped | unfit | conflict | missing | documented | unsuited | attached => cases h

/-- A request makes one change at most. -/
theorem accepts_cases (b : Builder P) (r : Request P) : b.accepts r = [] ∨ ∃ change, b.accepts r = [change] := by
  unfold accepts
  split
  · cases r.change? b.kinds with
    | none => exact .inl rfl
    | some change => exact .inr ⟨change, rfl⟩
  · exact .inl rfl

/-- Where one change was made, the requests before it made the changes before it, and those after it the changes
after it. -/
theorem accepted_split {b : Builder P} {requests : List (Request P)} {earlier later : List (Change P)}
    {change : Change P} (h : b.accepted requests = earlier ++ change :: later) :
    ∃ before r after, requests = before ++ r :: after ∧ b.accepted before = earlier ∧
      (b.serveAll before).accepts r = [change] ∧ (b.serveAll (before ++ [r])).accepted after = later := by
  induction requests generalizing b earlier with
  | nil => cases earlier <;> cases h
  | cons r rest ih =>
    rw [accepted] at h
    obtain none | ⟨first, one⟩ := b.accepts_cases r
    · rw [none, List.nil_append] at h
      obtain ⟨before, r', after, rfl, he, hc, hl⟩ := ih h
      refine ⟨r :: before, r', after, rfl, ?_, hc, hl⟩
      rw [accepted, none, he, List.nil_append]
    · rw [one, List.singleton_append] at h
      cases earlier with
      | nil =>
        obtain ⟨rfl, rfl⟩ := List.cons.inj h
        exact ⟨[], r, rest, rfl, rfl, one, rfl⟩
      | cons first' earlier =>
        obtain ⟨rfl, hl⟩ := List.cons.inj h
        obtain ⟨before, r', after, rfl, he, hc, hl⟩ := ih hl
        refine ⟨r :: before, r', after, rfl, ?_, hc, hl⟩
        rw [accepted, one, he]
        rfl

/-- Every entry comes from a registration of the history, the last one that was accepted under its key. -/
theorem last_origin {config : BindConfig} {history : List (Operation P)} {key : EntryKey} {e : Entry P}
    (found : ((new config).after history).entries.find? key = some e) :
    ∃ before r after registered, history.flatMap Operation.requests = before ++ r :: after ∧ registered.key = key ∧
      ComesFrom config before r registered e ∧
      key ∉ publishedKeys (((new config).serveAll (before ++ [r])).accepted after) := by
  obtain ⟨earlier, registered, later, hlog, rfl, stands⟩ := (ledger_after config history).stands key e found
  obtain ⟨before, r, after, hr, -, hc, hl⟩ := accepted_split hlog
  have hm : .publish registered ∈ ((new config).serveAll before).accepts r := by
    rw [hc]
    exact List.mem_singleton_self _
  obtain ⟨fits, accepted⟩ := publish_mem_accepts.mp hm
  refine ⟨before, r, after, registered, hr, rfl, ⟨fits, accepted, stands.same⟩, ?_⟩
  rw [hl]
  exact stands.last

/-- Every entry comes from a registration of the history, under the key of that registration. -/
theorem origin {config : BindConfig} {history : List (Operation P)} {key : EntryKey} {e : Entry P}
    (found : ((new config).after history).entries.find? key = some e) :
    ∃ before r after registered, history.flatMap Operation.requests = before ++ r :: after ∧ registered.key = key ∧
      ComesFrom config before r registered e := by
  obtain ⟨before, r, after, registered, hr, hk, from_r, -⟩ := last_origin found
  exact ⟨before, r, after, registered, hr, hk, from_r⟩

theorem ComesFrom.limit {config : BindConfig} {before : List (Request P)} {r : Request P} {registered e : Entry P}
    (h : ComesFrom config before r registered e) : registered.arity ≤ config.maxParameters := by
  have limit := h.fits.limit
  rwa [serveAll_config] at limit

/-- Every history of the registration phase leads to coherent entries. -/
theorem coherent_after (config : BindConfig) (history : List (Operation P)) :
    Coherent ((new config).after history).entries := by
  intro key e found
  obtain ⟨before, r, after, registered, -, hk, origin⟩ := origin found
  have coherent := Request.coherent_of_asked origin.fits.asked
  rw [origin.same]
  exact ⟨hk, coherent⟩

/-- The keys that a row of bindings is reported to be installed under are those of its accepted registrations. -/
theorem installed_eq (b : Builder P) (bindings : List (Binding P)) :
    (b.install bindings).1.installed = publishedKeys (b.accepted (bindings.map .register)) := by
  induction bindings generalizing b with
  | nil => rfl
  | cons binding rest ih =>
    have hs := b.served (.register binding)
    have hr : (b.serve (.register binding)).result = (b.register binding).result.map some := rfl
    have hb : (b.serve (.register binding)).builder = (b.register binding).builder := rfl
    rw [List.map_cons, accepted, publishedKeys_append, hb, ← ih]
    simp only [install, accepts]
    generalize b.serve (.register binding) = o at hs hr ⊢
    generalize (b.register binding).result = result at hr ⊢
    cases hs with
    | published fits free =>
      rw [Request.change?_of_asked fits.asked]
      cases result <;> cases hr
      rfl
    | unfit | conflict =>
      cases result <;> cases hr
      rfl

/-- Every operation keeps the keys that are taken. -/
theorem isSome_find?_serve {b : Builder P} {key : EntryKey} (h : (b.entries.find? key).isSome = true) (r : Request P) :
    ((b.serve r).builder.entries.find? key).isSome = true := by
  have hs := b.served r
  generalize b.serve r = o at hs ⊢
  cases hs with
  | published fits free =>
    dsimp only
    rw [Directory.find?_insert]
    split
    · rfl
    · exact h
  | attached found none suits => exact (Directory.isSome_find?_modify ..).trans h
  | mapped | unfit | conflict | missing | documented | unsuited => exact h

private theorem isSome_find?_serveAll {b : Builder P} {key : EntryKey} (h : (b.entries.find? key).isSome = true)
    (requests : List (Request P)) : ((b.serveAll requests).entries.find? key).isSome = true := by
  induction requests generalizing b with
  | nil => exact h
  | cons r rest ih => exact ih (isSome_find?_serve h r)

/-- What fits is accepted exactly if its key is free or duplicates are not refused. -/
theorem serve_eq_ok_iff {b : Builder P} {r : Request P} {entry : Entry P} (fits : b.Fits r entry) :
    (b.serve r).result = .ok (some entry.key) ↔
      (b.config.duplicatePolicy = .reject → b.entries.find? entry.key = none) := by
  have hs := b.served r
  generalize b.serve r = o at hs ⊢
  cases hs with
  | unfit registers refused check => exact absurd fits (refused entry)
  | conflict fits' taken policy =>
    obtain rfl := Option.some.inj (fits.asked.symm.trans fits'.asked)
    constructor
    · intro h
      cases h
    · intro free
      cases taken.symm.trans (free policy)
  | published fits' free =>
    obtain rfl := Option.some.inj (fits.asked.symm.trans fits'.asked)
    exact ⟨fun _ => free, fun _ => rfl⟩
  | mapped | missing | documented | unsuited | attached => cases fits.asked

structure DuplicatesSettled (config : BindConfig) (history : List (Operation P)) : Prop where
  /-- The entry under a key is that of the only accepted registration if duplicates are refused, and of the last one
  else. It has the default record that came with this registration or was attached after it. -/
  stands : ∀ key e, ((new config).after history).entries.find? key = some e → ∃ before registered after,
    changes config history = before ++ .publish registered :: after ∧ registered.key = key ∧
      Stands config.duplicatePolicy before registered after e
  /-- Of the registrations that pass the other checks, those of a free key are accepted, and under a policy that lets
  the last one win all of them. -/
  accepted : ∀ r entry, ((new config).after history).Fits r entry →
    ((((new config).after history).serve r).result = .ok (some entry.key) ↔
      (config.duplicatePolicy = .reject → ((new config).after history).entries.find? entry.key = none))
  /-- The keys in use are those of the accepted registrations. -/
  found : ∀ key, (((new config).after history).entries.find? key).isSome = true ↔
    key ∈ publishedKeys (changes config history)
  size : ((new config).after history).entries.size = (publishedKeys (changes config history)).dedup.length
  /-- A request that fails changes nothing. -/
  failed : ∀ r e, (((new config).after history).serve r).result = .error e →
    (((new config).after history).serve r).builder = (new config).after history
  /-- A row of bindings is the row of its registrations, and those that fail are not installed. -/
  installed : ∀ bindings, (((new config).after history).install bindings).2.2 =
      ((new config).after history).serveAll (bindings.map .register) ∧
    (((new config).after history).install bindings).1.installed =
      publishedKeys (((new config).after history).accepted (bindings.map .register))
  /-- No operation frees a key. -/
  kept : ∀ o key, (((new config).after history).entries.find? key).isSome = true →
    ((((new config).after history).apply o).entries.find? key).isSome = true

/-- Duplicates are settled by the policy over every history of the registration phase. -/
theorem duplicates_settled (config : BindConfig) (history : List (Operation P)) : DuplicatesSettled config history := by
  have ledger := ledger_after config history
  constructor
  · exact ledger.stands
  · intro r entry fits
    rw [serve_eq_ok_iff fits, after_eq_serveAll, serveAll_config]
    rfl
  · exact ledger.found
  · exact ledger.size
  · intro r e h
    exact serve_error h
  · intro bindings
    exact ⟨install_builder _ bindings, installed_eq _ bindings⟩
  · intro o key h
    rw [apply_eq_serveAll]
    exact isSome_find?_serveAll h o.requests

/-- The later of two declarations stands, with the record attached to it and not with the one attached before. -/
example : (((new ⟨.lastWins, 15, true⟩).after [.declareScript "" "Warm" .int [] (none : Option Unit),
    .attachDefaults (.ofNames "" "Warm") ⟨"", [], "old"⟩, .declareScript "" "Warm" .float [] none,
    .attachDefaults (.ofNames "" "Warm") ⟨"", [], "new"⟩]).entries.find? (.ofNames "" "Warm")).map
      (fun e => (e.signature.returnKind, e.defaults.map (·.help))) = some (.float, some "new") := by
  decide +kernel

end Builder
end ScriptBridge
