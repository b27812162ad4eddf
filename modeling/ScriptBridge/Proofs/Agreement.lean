import ScriptBridge.Proofs.CallOrder

/-! States that agree but for the slots of one entry, and the calls of that entry in both. The checks look at no values
in slots, and arguments are written over those in the parameter slots. Where the code then runs the same, the calls have
the same outcome. -/
namespace ScriptBridge
variable {P H : Type}

theorem Registry.Alike.findMethod? {r r' : Registry P} (h : r.Alike r') (object : ObjectEntry) (scope name : UInt32) :
    (r'.findMethod? object scope name).map Entry.blank = (r.findMethod? object scope name).map Entry.blank := by
  simp only [Registry.findMethod?]
  split
  · rw [List.map_findSome?, List.map_findSome?]
    congr 1
    funext s
    exact h.entries ⟨s, name⟩
  · split
    · exact h.entries ⟨scope, name⟩
    · rfl

namespace Caller
variable {c : Caller P H} {w w' : World P H} {target : CallTarget} {arguments : List Argument} {result : HostType}

/-- Values in slots do not matter to the choice of the callee. -/
theorem resolve_alike (h : w.registry.Alike w'.registry) (ho : w'.objects = w.objects) (hh : w'.host = w.host) :
    (c.resolve w' target).map (fun found => (found.1.blank, found.2)) =
      (c.resolve w target).map (fun found => (found.1.blank, found.2)) := by
  cases target with
  | function name label =>
    have hf := h.entries ⟨globalScope, name⟩
    simp only [resolve, Registry.findFunction?]
    cases hw : w.registry.find? ⟨globalScope, name⟩ <;> cases hw' : w'.registry.find? ⟨globalScope, name⟩ <;>
      rw [hw, hw'] at hf <;> simp_all [Except.map]
  | method object scope name label =>
    have hr : c.receiver w' object = c.receiver w object := by
      cases object <;> simp only [receiver, ho, hh]
    simp only [resolve, hr]
    cases c.receiver w object with
    | error e => rfl
    | ok id =>
      change (c.resolveMethod w' id scope name label).map _ = (c.resolveMethod w id scope name label).map _
      simp only [resolveMethod, ho, hh]
      cases c.objects.entry? w.objects w.host id with
      | none => rfl
      | some found =>
        have hm := h.findMethod? found scope name
        dsimp only
        cases hw : w.registry.findMethod? found scope name <;> cases hw' : w'.registry.findMethod? found scope name <;>
          rw [hw, hw'] at hm <;> simp_all [Except.map]

/-- Both callees are one, but for the values in the slots. -/
theorem resolve_blank (h : w.registry.Alike w'.registry) (ho : w'.objects = w.objects) (hh : w'.host = w.host)
    {e : Entry P} {object : ObjectId} (resolved : c.resolve w target = .ok (e, object)) :
    ∃ e', c.resolve w' target = .ok (e', object) ∧ e'.blank = e.blank := by
  have hr : (c.resolve w' target).map (fun found => (found.1.blank, found.2)) = _ := resolve_alike h ho hh
  rw [resolved] at hr
  cases hw : c.resolve w' target with
  | error err =>
    rw [hw] at hr
    cases hr
  | ok found =>
    rw [hw] at hr
    obtain ⟨hb, rfl⟩ := Prod.mk.inj (Except.ok.inj hr)
    exact ⟨found.1, rfl, hb⟩

/-- Nor do they matter to the other checks. -/
theorem Ready.alike {p : PreparedCall P} (ready : c.Ready w target arguments result p)
    (h : w.registry.Alike w'.registry) (ho : w'.objects = w.objects) (hh : w'.host = w.host) :
    ∃ e', e'.blank = p.entry.blank ∧ c.Ready w' target arguments result { p with entry := e' } := by
  obtain ⟨e', resolved, hb⟩ := resolve_blank h ho hh ready.resolved
  have hs := Entry.signature_of_blank hb
  refine ⟨e', hb, resolved, ?_, ?_, ready.known, ?_⟩
  · exact ready.arity.trans (Entry.arity_of_blank hb).symm
  · rw [h.kinds]
    exact ready.kind
  · rw [ho, hh, hs]
    exact ready.converted

theorem Rejects.alike {err : BindError} (rejected : c.Rejects w target arguments result err)
    (h : w.registry.Alike w'.registry) (ho : w'.objects = w.objects) (hh : w'.host = w.host) (hl : w'.held = w.held) :
    c.Rejects w' target arguments result err := by
  cases rejected with
  | target missing =>
    have hr : (c.resolve w' target).map (fun found => (found.1.blank, found.2)) = _ := resolve_alike h ho hh
    rw [missing] at hr
    cases hw : c.resolve w' target with
    | error err =>
      rw [hw] at hr
      cases hr
      exact .target hw
    | ok found =>
      rw [hw] at hr
      cases hr
  | arity resolved differ =>
    obtain ⟨e', resolved, hb⟩ := resolve_blank h ho hh resolved
    have ha := Entry.arity_of_blank hb
    have rejected : c.Rejects w' target arguments result _ := .arity resolved (ha ▸ differ)
    rwa [Entry.qualified_of_blank hb, ha] at rejected
  | resultType resolved arity unknown =>
    obtain ⟨e', resolved, hb⟩ := resolve_blank h ho hh resolved
    have ha := Entry.arity_of_blank hb
    exact .resultType resolved (ha ▸ arity) (h.kinds ▸ unknown)
  | argument resolved arity known bad least =>
    obtain ⟨e', resolved, hb⟩ := resolve_blank h ho hh resolved
    have hs := Entry.signature_of_blank hb
    have ha := Entry.arity_of_blank hb
    have rejected : c.Rejects w' target arguments result _ := .argument resolved (ha ▸ arity) (h.kinds ▸ known)
      (by rw [ho, hh, hs]; exact bad) (by rw [ho, hh, hs]; exact least)
    rwa [Entry.qualified_of_blank hb] at rejected
  | busy ready held =>
    obtain ⟨e', hb, ready⟩ := ready.alike h ho hh
    have held' : e'.key ∈ w'.held := by
      rw [hl, Entry.key_of_blank hb]
      exact held
    have rejected : c.Rejects w' target arguments result _ := .busy ready held'
    rwa [Entry.qualified_of_blank hb] at rejected

end Caller

namespace SlotTable
variable {t t' : SlotTable}

private theorem result_of_clear (hc : t'.clear = t.clear) (hv : t'.result.value = t.result.value) :
    t'.result = t.result := by
  obtain ⟨⟨name', kind', hostType', value'⟩, params'⟩ := t'
  obtain ⟨⟨name, kind, hostType, value⟩, params⟩ := t
  obtain ⟨⟨⟩, -⟩ := SlotTable.mk.inj hc
  obtain rfl : value' = value := hv
  rfl

/-- Writing the result leaves no trace of the value that stood there before. -/
theorem withResult_of_clear (hc : t'.clear = t.clear) (hp : t'.params = t.params) (v : SlotValue) :
    t'.withResult v = t.withResult v := by
  obtain ⟨⟨name', kind', hostType', value'⟩, params'⟩ := t'
  obtain ⟨⟨name, kind, hostType, value⟩, params⟩ := t
  obtain ⟨⟨⟩, -⟩ := SlotTable.mk.inj hc
  obtain rfl : params' = params := hp
  rfl

theorem setResult_congr (hc : t'.clear = t.clear) (hp : t'.params = t.params) (v : SlotValue) :
    t'.setResult v = t.setResult v := by
  rw [setResult_eq, setResult_eq, withResult_of_clear hc hp, result_kind_of_clear hc]

end SlotTable

/-- Entries that differ at most in the values of their slots, with the same values in them. -/
theorem Entry.with_table_of_blank {e e' : Entry P} (h : e'.blank = e.blank) (t : SlotTable) :
    { e' with table := t } = { e with table := t } := congrArg (fun b : Entry P => { b with table := t }) h

/-- States that differ at most in the slots of one entry. If `diagnostics` holds, their journals are the same too. -/
structure World.Agree (diagnostics : Prop) (key : EntryKey) (w w' : World P H) : Prop where
  host : w'.host = w.host
  objects : w'.objects = w.objects
  held : w'.held = w.held
  journal : diagnostics → w'.journal = w.journal
  others : ∀ l, l ≠ key → w'.table? l = w.table? l

namespace World.Agree
variable {diagnostics : Prop} {key : EntryKey} {w w' w'' : World P H}

theorem refl (w : World P H) : w.Agree diagnostics key w := ⟨rfl, rfl, rfl, fun _ => rfl, fun _ _ => rfl⟩

theorem trans (h : w.Agree diagnostics key w') (j : w'.Agree diagnostics key w'') : w.Agree diagnostics key w'' where
  host := j.host.trans h.host
  objects := j.objects.trans h.objects
  held := j.held.trans h.held
  journal d := (j.journal d).trans (h.journal d)
  others l hl := (j.others l hl).trans (h.others l hl)

theorem symm (h : w.Agree diagnostics key w') : w'.Agree diagnostics key w where
  host := h.host.symm
  objects := h.objects.symm
  held := h.held.symm
  journal d := (h.journal d).symm
  others l hl := (h.others l hl).symm

theorem anyJournal (h : w.Agree diagnostics key w') : w.Agree False key w' := { h with journal := False.elim }

theorem enter (h : w.Agree diagnostics key w') (values : List SlotValue) :
    (w.enter key values).Agree diagnostics key (w'.enter key values) := by
  obtain ⟨held, objects, journal, host⟩ := w.enter_rest key values
  obtain ⟨held', objects', journal', host'⟩ := w'.enter_rest key values
  refine ⟨?_, ?_, ?_, fun d => ?_, fun l hl => ?_⟩
  · rw [host, host', h.host]
  · rw [objects, objects', h.objects]
  · rw [held, held', h.held]
  · rw [journal, journal', h.journal d]
  · rw [enter_table?, enter_table?, if_neg hl, if_neg hl, h.others l hl]

theorem putTable (h : w.Agree diagnostics key w') (t t' : SlotTable) :
    (w.putTable key t).Agree diagnostics key (w'.putTable key t') := by
  refine ⟨h.host, h.objects, h.held, h.journal, fun l hl => ?_⟩
  rw [table?_putTable, table?_putTable, if_neg hl, if_neg hl, h.others l hl]

theorem putReceiver (h : w.Agree diagnostics key w') (receiver : Option (ObjectId × HostObject))
    (object : Option HostObject) :
    (w.putReceiver receiver object).Agree diagnostics key (w'.putReceiver receiver object) := by
  rcases receiver with _ | ⟨id, _⟩
  · exact h
  · cases object with
    | none => exact h
    | some o => exact { h with objects := congrArg (·.put id o) h.objects }

theorem borrow (h : w.Agree diagnostics key w') (id : ObjectId) : (w.borrow id).Agree diagnostics key (w'.borrow id) :=
  { h with objects := congrArg (fun o => { o with borrowed := id :: o.borrowed }) h.objects }

theorem giveBack (h : w.Agree diagnostics key w') (id : ObjectId) :
    (w.giveBack id).Agree diagnostics key (w'.giveBack id) :=
  { h with objects := congrArg (fun o => { o with borrowed := o.borrowed.erase id }) h.objects }

theorem find? (h : w.Agree diagnostics key w') (alike : w.registry.Alike w'.registry) {l : EntryKey} (hl : l ≠ key) :
    w'.registry.find? l = w.registry.find? l := by
  have blank := alike.entries l
  have table := h.others l hl
  unfold World.table? at table
  cases found' : w'.registry.find? l with
  | none =>
    rw [found'] at blank
    exact (Option.map_eq_none_iff.mp blank.symm).symm
  | some e' =>
    obtain ⟨e, found, same⟩ := alike.find? found'
    rw [found', found] at table
    have table : e'.table = e.table := Option.some.inj table
    rw [found]
    calc some e' = some { e' with table := e.table } := by rw [← table]
      _ = some e := congrArg some (Entry.with_table_of_blank same e.table)

/-- With the same values in the slots everything is the same. -/
theorem putTable_eq (h : w.Agree True key w') (alike : w.registry.Alike w'.registry)
    (keys : w'.registry.entries.keys = w.registry.entries.keys) (t : SlotTable) :
    w'.putTable key t = w.putTable key t := by
  have entries : w'.registry.entries.modify key (fun e => { e with table := t }) =
      w.registry.entries.modify key (fun e => { e with table := t }) := by
    refine Directory.eq_of_find? ?_ fun l => ?_
    · rw [Directory.keys_modify, Directory.keys_modify, keys]
    · rw [Directory.find?_modify, Directory.find?_modify]
      by_cases hl : l = key
      · have blank := congrArg (Option.map fun b : Entry P => { b with table := t }) (alike.entries l)
        rw [if_pos hl, if_pos hl]
        rwa [Option.map_map, Option.map_map] at blank
      · rw [if_neg hl, if_neg hl]
        exact h.find? alike hl
  obtain ⟨⟨config', kinds', entries'⟩, held', objects', journal', host'⟩ := w'
  obtain ⟨⟨config, kinds, entries⟩, held, objects, journal, host⟩ := w
  obtain rfl : config' = config := alike.config
  obtain rfl : kinds' = kinds := alike.kinds
  obtain rfl : held' = held := h.held
  obtain rfl : objects' = objects := h.objects
  obtain rfl : journal' = journal := h.journal trivial
  obtain rfl : host' = host := h.host
  simp only [World.putTable, World.mk.injEq, Registry.mk.injEq, true_and, and_true]
  exact entries

end World.Agree

section Keys
variable {base s s' : List Activation} {w w' : World P H}

private theorem World.keys_enter (w : World P H) (key : EntryKey) (values : List SlotValue) :
    (w.enter key values).registry.entries.keys = w.registry.entries.keys := by
  rw [enter_eq]
  cases w.table? key with
  | none => rfl
  | some t => exact Directory.keys_modify _ _ _

private theorem Move.keys (step : Move s w s' w') : w'.registry.entries.keys = w.registry.entries.keys := by
  cases step with
  | write | clear => exact Directory.keys_modify _ _ _
  | call | invoke => exact w.keys_enter _ _
  | elsewhere | guard | leave | drop => rfl

/-- A host never changes which entries there are, nor their order. -/
theorem Reachable.keys {r : Registry P} (h : Reachable r s w) : w.registry.entries.keys = r.entries.keys := by
  obtain ⟨w₀, rfl, -, run⟩ := h
  induction run with
  | start => rfl
  | move _ step _ ih => exact step.keys.trans ih

end Keys

/-- Runs that end alike. If they succeed, they leave states that agree but for the diagnostics, and the same values in
the slots of the entry. -/
def SameRun {α : Type} (success : α → Prop) (key : EntryKey) (o o' : α × World P H) : Prop :=
  o'.1 = o.1 ∧ (success o.1 → o.2.Agree False key o'.2 ∧ o'.2.table? key = o.2.table? key)

theorem SameRun.of_eq {α : Type} {success : α → Prop} {key : EntryKey} {o o' : α × World P H} (h : o' = o) :
    SameRun success key o o' := by
  subst h
  exact ⟨rfl, fun _ => ⟨.refl _, rfl⟩⟩

section Outcome
variable {w w' : World P H} {e : Entry P}

/-- The same value in the result slot, and the same arguments, make the same state to start in. -/
theorem World.enter_congr {values : List SlotValue} (agree : w.Agree True e.key w')
    (alike : w.registry.Alike w'.registry) (keys : w'.registry.entries.keys = w.registry.entries.keys)
    (result : w'.resultValue e.key = w.resultValue e.key) (found : w.registry.find? e.key = some e)
    (hk : values.map SlotValue.kind = e.table.params.map Slot.kind) :
    w'.enter e.key values = w.enter e.key values := by
  obtain ⟨e', found', hb⟩ := alike.symm.find? found
  have hkey : e'.key = e.key := Entry.key_of_blank hb.symm
  have hc : e'.table.clear = e.table.clear := Entry.clear_of_blank hb.symm
  have hv : e'.table.result.value = e.table.result.value := by
    simpa only [resultValue, table?, found, found', Option.map_some, Option.getD_some] using result
  have hk' : values.map SlotValue.kind = e'.table.params.map Slot.kind := by rw [hk, SlotTable.map_kind_of_clear hc]
  have entered' : w'.enter e.key values = (w'.hold e.key).putTable e.key (e'.table.withArguments values) := by
    rw [← hkey]
    exact (fill_enter (hkey.symm ▸ found') hk').2
  have held : (w.hold e.key).Agree True e.key (w'.hold e.key) := { agree with held := congrArg (e.key :: ·) agree.held }
  rw [entered', (fill_enter found hk).2, SlotTable.withArguments_of_clear values hc (SlotTable.result_of_clear hc hv)]
  exact held.putTable_eq alike keys _

private theorem Caller.convertResult_congr (c : Caller P H) (objects : w'.objects = w.objects) (host : w'.host = w.host)
    (function : String) (kind : Kind) (t : HostType) (v : SlotValue) :
    c.convertResult w' function kind t v = c.convertResult w function kind t v := by
  simp only [convertResult, objects, host]

/-- Where the runs are the same, so are the outcomes of calls. -/
theorem Caller.call_congr {c : Caller P H} {target : CallTarget} {arguments : List Argument} {result : HostType}
    {object : ObjectId} (hw : Coherent w.registry.entries) (alike : w.registry.Alike w'.registry)
    (agree : w.Agree False e.key w') (resolved : c.resolve w target = .ok (e, object))
    (hrun : ∀ values, values.map SlotValue.kind = e.table.params.map Slot.kind →
      SameRun (· = true) e.key (c.executor object e.key e.key (w.enter e.key values))
        (c.executor object e.key e.key (w'.enter e.key values))) :
    (c.call target arguments result w').1 = (c.call target arguments result w).1 := by
  rcases c.rejects_or_ready w target arguments result with ⟨err, rejected⟩ | ⟨p, ready, free⟩
  · rw [rejected.call, (rejected.alike alike agree.objects agree.host agree.held).call]
  · obtain ⟨entry, receiver, values, kind⟩ := p
    obtain ⟨rfl, rfl⟩ := Prod.mk.inj (Except.ok.inj (ready.resolved.symm.trans resolved))
    obtain ⟨e', hb, ready'⟩ := ready.alike alike agree.objects agree.host
    have hkey : e'.key = entry.key := Entry.key_of_blank hb
    have hq : e'.qualified = entry.qualified := Entry.qualified_of_blank hb
    have free' : e'.key ∉ w'.held := by
      rw [hkey, agree.held]
      exact free
    obtain ⟨same, success⟩ := hrun values (ready.kinds hw)
    rw [ready.call hw free, ready'.call (alike.coherent hw) free', reporting_fst, reporting_fst]
    simp only [Caller.run, hkey]
    generalize c.executor receiver entry.key entry.key (w.enter entry.key values) = o at same success ⊢
    generalize c.executor receiver entry.key entry.key (w'.enter entry.key values) = o' at same success ⊢
    obtain ⟨told, after⟩ := o
    obtain ⟨told', after'⟩ := o'
    obtain rfl : told' = told := same
    cases told' with
    | false => simp only [finish, hq]
    | true =>
      obtain ⟨agree, table⟩ := success rfl
      have value : after'.resultValue entry.key = after.resultValue entry.key := by
        simp only [World.resultValue, table]
      simp only [finish, hkey, hq, value]
      exact c.convertResult_congr agree.objects agree.host _ _ _ _

/-- A direct call does not look into the entry for values of slots. -/
theorem World.attemptInvoke_of_blank {e' : Entry P} (hb : e'.blank = e.blank) (run : Runner P H)
    (receiver : Option (ObjectId × HostObject)) (arguments : List SlotValue) :
    w.attemptInvoke run e' receiver arguments = w.attemptInvoke run e receiver arguments := by
  have he : e' = { e with table := e'.table } := (Entry.with_table_of_blank hb e'.table :)
  rw [he]
  rfl

theorem Entry.Accepts.of_blank {e' : Entry P} {adapter : Adapter P} {arguments : List SlotValue}
    (h : e.Accepts adapter arguments) (hb : e'.blank = e.blank) : e'.Accepts adapter arguments := by
  have he : e' = { e with table := e'.table } := (Entry.with_table_of_blank hb e'.table :)
  rw [he]
  exact ⟨h.native, h.arity, h.checked⟩

/-- Where the runs are the same, so are the outcomes of direct calls. -/
theorem World.invoke_congr {run : Runner P H} {receiver : Option (ObjectId × HostObject)} {arguments : List SlotValue}
    {e' : Entry P} (hw : Coherent w.registry.entries) (alike : w.registry.Alike w'.registry)
    (agree : w.Agree False e.key w') (found : w.registry.find? e.key = some e)
    (found' : w'.registry.find? e.key = some e')
    (hrun : ∀ adapter, e.Accepts adapter arguments →
      SameRun (· = .ok ()) e.key ((w.enter e.key arguments).dispatch run adapter e.key receiver)
        ((w'.enter e.key arguments).dispatch run adapter e.key receiver)) :
    (w'.invoke run e' receiver arguments).1 = (w.invoke run e receiver arguments).1 := by
  have hb : e'.blank = e.blank := by
    have entries := alike.entries e.key
    rw [found, found'] at entries
    exact Option.some.inj entries
  have hkey : e'.key = e.key := Entry.key_of_blank hb
  rw [invoke, invoke, Caller.reporting_fst, Caller.reporting_fst]
  by_cases accepted : ∃ adapter, e.Accepts adapter arguments
  · obtain ⟨adapter, accepted⟩ := accepted
    by_cases held : e.key ∈ w.held
    · rw [attemptInvoke_of_blank hb, attemptInvoke_held run receiver accepted held,
        attemptInvoke_held run receiver accepted (agree.held ▸ held)]
    · have he := (hw e.key e found).2
      have free' : e'.key ∉ w'.held := by
        rw [hkey, agree.held]
        exact held
      obtain ⟨same, success⟩ := hrun adapter accepted
      rw [attemptInvoke_free run receiver accepted found he held,
        attemptInvoke_free run receiver (accepted.of_blank hb) (hkey.symm ▸ found') (Entry.coherent_of_blank hb he)
          free']
      simp only [hkey]
      generalize (w.enter e.key arguments).dispatch run adapter e.key receiver = o at same success ⊢
      generalize (w'.enter e.key arguments).dispatch run adapter e.key receiver = o' at same success ⊢
      obtain ⟨told, after⟩ := o
      obtain ⟨told', after'⟩ := o'
      obtain rfl : told' = told := same
      cases told' with
      | error err => rfl
      | ok =>
        obtain ⟨-, table⟩ := success rfl
        simp only [finishInvoke, hkey, resultValue, table]
  · obtain ⟨err, refused, -⟩ := attemptInvoke_refused (not_exists.mp accepted)
    rw [attemptInvoke_of_blank hb, refused, refused]

end Outcome

end ScriptBridge
