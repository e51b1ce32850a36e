import DeclarativeForm.Proofs.Sync.Current
import DeclarativeForm.Proofs.Sync.Quiet

/-!
Paths through items that are not there. Writing a value refuses them. Adding an item and choosing
a value for the output step of a flow do not: they write to the path all the same, and a write makes
up every item that is missing on the way, however many the repeatable may hold.
-/

set_option autoImplicit false

namespace DeclarativeForm

open FieldPath

/-- A path without an item is parted at the first index that has none; what is before it addresses
the repeatable. -/
theorem Addresses.parted {fields : List Node} {values : Json} {context : Context}
    {segments : List Segment} {located : Located} {repeatable : FieldPath} {index : Nat}
    (addresses : Addresses fields context segments located)
    (missing : missingItemFrom values context.parent segments = some (repeatable, index)) :
    ∃ front back head template place, segments = front ++ .index index :: back ∧
      repeatable.segments = context.parent.segments ++ front ∧
      Addresses fields context front ⟨.repeatable head template, place⟩ ∧
      itemCount repeatable values ≤ index := by
  induction addresses with
  | here => cases missing
  | @inside fields template context name head position rest located found later ih =>
      rw [missingItemFrom, missingItemFrom] at missing
      split at missing
      · rename_i absent
        cases missing
        exact ⟨[.key name], rest, head, template, context, rfl, rfl, .here found, absent⟩
      · obtain ⟨_, rfl⟩ := mem_spread_of_findByName found
        obtain ⟨front, back, inner, nodes, place, split, path, there, absent⟩ := ih missing
        refine ⟨.key head.name :: .index position :: front, back, inner, nodes, place, ?_, ?_,
          .inside found there, absent⟩
        · rw [split]
          rfl
        · rw [path]
          simp [Context.enterItem, Context.pathFor, child, item]

theorem FieldPath.getAt_eq_none_of_missing {front back : List Segment} {index : Nat} {values : Json}
    (absent : itemCount ⟨front⟩ values ≤ index) :
    getAt (front ++ .index index :: back) values = none := by
  rw [itemCount_eq, get?_eq] at absent
  rw [getAt_append]
  cases found : getAt front values with
  | none => rfl
  | some value =>
      rw [found, Option.getD_some] at absent
      rw [Option.bind_some, getAt_index, List.getElem?_eq_none absent]
      rfl

namespace Engine

variable {engine : Engine} {text : String} {path repeatable : FieldPath} {located : Located}
  {index : Nat}

theorem applyFlowChange_values (store : Store) (path : FieldPath) (flow : Flow)
    (id value : String) (change : FlowChange) :
    (applyFlowChange store path flow id value change).values =
      match change.output with
      | some output => path.set store.values (.string output)
      | none => path.without store.values := by
  have cleared (steps : List String) (store : Store) : (steps.foldl (fun store step =>
      store.clearError (path.text ++ "." ++ step)) store).values = store.values := by
    induction steps generalizing store with
    | nil => rfl
    | cons step rest ih => exact ih (store.clearError (path.text ++ "." ++ step))
  unfold applyFlowChange
  dsimp only
  rw [cleared]
  cases change.output with
  | none => split <;> rfl
  | some output => split <;> rfl

/-- A choice is refused, or the flow gets the value of its output step or loses its own, and the
fields are brought up to date. -/
theorem selectFlowStep_cases (isThere : engine.locate text = .ok (path, located))
    (id value : String) :
    (engine.selectFlowStep text id value).1.values = engine.values ∧
        (∀ change, (engine.selectFlowStep text id value).2 ≠ .ok (.applied change)) ∨
      ∃ (change : FlowChange) (written : Engine),
        (engine.selectFlowStep text id value).2 = .ok (.applied change) ∧
        (change.output = some value ∨ change.output = none) ∧
        written.form = engine.form ∧ written.store.slots = engine.store.slots ∧
        (written.values = match change.output with
          | some output => path.set engine.values (.string output)
          | none => path.without engine.values) ∧
        (engine.selectFlowStep text id value).1 =
          (written.refreshDerived (some path.text)).emitChange := by
  have reached := engine.selectFlowStep_choice text id value
  generalize engine.selectFlowStep text id value = result at reached ⊢
  cases reached with
  | refused rejection => exact Or.inl ⟨rfl, fun _ same => nomatch same⟩
  | ignored found starts present selection unapplied =>
      subst starts
      refine Or.inl ⟨(engine.syncFlow_keeps _).1, fun change same => ?_⟩
      exact unapplied change (Except.ok.inj same)
  | @applied spot flow place started state step progress change found starts present
      isStep enabled chosen tickets output =>
      cases isThere.symm.trans found
      subst starts
      obtain ⟨values, slots⟩ := engine.syncFlow_keeps ⟨path, flow, place⟩
      have either : change.output = some value ∨ change.output = none := by
        rw [output]
        split
        · exact Or.inl rfl
        · exact Or.inr rfl
      refine Or.inr ⟨change, _, rfl, either, ?_, ?_, ?_, rfl⟩
      · exact (engine.syncFlow_works ⟨path, flow, place⟩).form
      · exact (applyFlowChange_tables _ _ _ _ _ _).1.trans slots
      · rw [← values]
        exact applyFlowChange_values _ path flow id value _

structure Misses (engine : Engine) (path repeatable : FieldPath) (index : Nat) : Prop where
  absent : path.get? engine.values = none
  few : itemCount repeatable engine.values ≤ index
  /-- A write to the path makes up the items. -/
  written : ∀ value, itemCount repeatable (path.set engine.values value) = index + 1
  /-- Bringing the fields up to date keeps them. -/
  kept : ∀ (after : Engine) (touched : Option String), WellNamed engine.form.fields →
    after.form = engine.form →
    itemCount repeatable (after.refreshDerived touched).values = itemCount repeatable after.values

theorem misses_of_missingItem? (isThere : engine.locate text = .ok (path, located))
    (missing : missingItem? path engine.values = some (repeatable, index)) :
    engine.Misses path repeatable index := by
  obtain ⟨front, back, head, template, place, split, same, addresses, few⟩ :=
    (locate_eq_ok isThere).2.parted missing
  obtain ⟨segments⟩ := path
  obtain ⟨start⟩ := repeatable
  obtain rfl : start = front := same
  obtain rfl : segments = start ++ .index index :: back := split
  refine ⟨getAt_eq_none_of_missing few, few, fun value => ?_, fun after touched named form => ?_⟩
  · have made : itemCount ⟨start⟩ (setAt (start ++ .index index :: back) engine.values value) =
        max (itemCount ⟨start⟩ engine.values) (index + 1) := itemCount_set engine.values value
    exact made.trans (Nat.max_eq_right (Nat.le_succ_of_le few))
  · rw [← form] at named addresses
    exact (after.refreshDerived_within touched named).items _ _ _ _ addresses

theorem setValue_of_missing (isThere : engine.locate text = .ok (path, located))
    (missing : missingItem? path engine.values = some (repeatable, index)) (value : Json) :
    engine.setValue text value =
      (engine, .error (.indexOutOfRange repeatable.text index)) := by
  simp only [Engine.setValue, isThere, missing]

namespace Misses

/-- After a write to the path the repeatable has the items, and bringing fields up to date leaves
them there. -/
theorem itemCount_refreshed (misses : engine.Misses path repeatable index)
    (named : WellNamed engine.form.fields) {written : Engine} (form : written.form = engine.form)
    {value : Json} (values : written.values = path.set engine.values value)
    (touched : Option String) :
    itemCount repeatable (written.refreshDerived touched).emitChange.values = index + 1 := by
  rw [values_emitChange, misses.kept written touched named form, values]
  exact misses.written value

/-- An item is added below one that is not there, unless the repeatable may hold none. -/
theorem addItem (misses : engine.Misses path repeatable index)
    (isThere : engine.locate text = .ok (path, located)) (named : WellNamed engine.form.fields) :
    (engine.addItem text).1.values = engine.values ∧
        (∃ rejection, (engine.addItem text).2 = .error rejection) ∧
        (∀ head template, located.node = .repeatable head template → head.maxItemCount = some 0) ∨
      (engine.addItem text).2 = .ok 0 ∧
        itemCount repeatable (engine.addItem text).1.values = index + 1 := by
  have empty : itemCount path engine.values = 0 := by
    rw [itemCount_eq, misses.absent]
    rfl
  obtain ⟨node, context⟩ := located
  simp only [Engine.addItem, isThere]
  cases node with
  | leaf field => exact Or.inl ⟨rfl, ⟨_, rfl⟩, fun _ _ other => nomatch other⟩
  | group head fields => exact Or.inl ⟨rfl, ⟨_, rfl⟩, fun _ _ other => nomatch other⟩
  | flow flow => exact Or.inl ⟨rfl, ⟨_, rfl⟩, fun _ _ other => nomatch other⟩
  | repeatable head template =>
      dsimp only
      rw [empty]
      split
      · rename_i most reached
        refine Or.inl ⟨rfl, ⟨_, rfl⟩, fun other nodes same => ?_⟩
        cases same
        obtain ⟨limit, none⟩ := Option.filter_eq_some_iff.mp reached
        rw [limit, Nat.le_zero.mp (of_decide_eq_true none)]
      · refine Or.inr ⟨rfl, ?_⟩
        generalize Json.array _ = added
        let written : Engine := { engine with store := engine.store.setValue path added }
        have form : written.form = engine.form := rfl
        have values : written.values = path.set engine.values added := rfl
        exact misses.itemCount_refreshed named form values (some path.text)

/-- A value for the output step is written below an item that is not there; any other choice leaves
the values alone. -/
theorem selectFlowStep (misses : engine.Misses path repeatable index)
    (isThere : engine.locate text = .ok (path, located)) (named : WellNamed engine.form.fields)
    (settled : engine.Settled) (sound : engine.SoundSlots) (id value : String) :
    (engine.selectFlowStep text id value).1.values = engine.values ∧
        (∀ change, (engine.selectFlowStep text id value).2 = .ok (.applied change) →
          change.output = none) ∨
      (∃ change, (engine.selectFlowStep text id value).2 = .ok (.applied change) ∧
          change.output = some value) ∧
        itemCount repeatable (engine.selectFlowStep text id value).1.values = index + 1 := by
  rcases selectFlowStep_cases isThere id value with
    ⟨values, refused⟩ | ⟨change, written, applied, output, form, slots, values, same⟩
  · exact Or.inl ⟨values, fun change applied => absurd applied (refused change)⟩
  · rw [same, applied]
    rcases output with isOutput | isOther
    · refine Or.inr ⟨⟨change, rfl, isOutput⟩, ?_⟩
      rw [isOutput] at values
      exact misses.itemCount_refreshed named form values (some path.text)
    · refine Or.inl ⟨?_, fun other equal => ?_⟩
      · rw [isOther] at values
        have unchanged := values.trans (without_eq_self misses.absent)
        have stillSettled : written.Settled := by
          intro binding member
          rw [bindings_congr form unchanged] at member
          exact (settled binding member).congr slots
        rw [values_emitChange,
          stillSettled.refreshDerived_values (sound.congr slots) (form ▸ named) _]
        exact unchanged
      · cases equal
        exact isOther

end Misses

end Engine

namespace Session

/-- What writes do below an item that is not there. A value is not written. An item is added, unless
the path leads to no repeatable or the repeatable may hold none, and a value of the output step of a
flow is written; and then the repeatable on the way holds the missing item and all before it. -/
theorem Reachable.missingItem_written {mounting : Engine.Mounting} {session : Session}
    (reachable : Reachable mounting session) (named : WellNamed mounting.form.fields)
    (steady : session.engine.gaveUp = false) {text : String} {path repeatable : FieldPath}
    {located : Located} {index : Nat}
    (isThere : session.engine.locate text = .ok (path, located))
    (missing : missingItem? path session.engine.values = some (repeatable, index)) :
    (∀ value, session.engine.setValue text value =
        (session.engine, .error (.indexOutOfRange repeatable.text index))) ∧
      ((session.engine.addItem text).1.values = session.engine.values ∧
          (∃ rejection, (session.engine.addItem text).2 = .error rejection) ∧
          (∀ head template, located.node = .repeatable head template →
            head.maxItemCount = some 0) ∨
        (session.engine.addItem text).2 = .ok 0 ∧
          itemCount repeatable (session.engine.addItem text).1.values = index + 1) ∧
      ∀ id value, (session.engine.selectFlowStep text id value).1.values = session.engine.values ∧
          (∀ change, (session.engine.selectFlowStep text id value).2 = .ok (.applied change) →
            change.output = none) ∨
        (∃ change, (session.engine.selectFlowStep text id value).2 = .ok (.applied change) ∧
            change.output = some value) ∧
          itemCount repeatable (session.engine.selectFlowStep text id value).1.values =
            index + 1 := by
  have misses := Engine.misses_of_missingItem? isThere missing
  have settled := reachable.settled named steady
  rw [← reachable.form] at named
  refine ⟨fun value => Engine.setValue_of_missing isThere missing value,
    misses.addItem isThere named, fun id value => ?_⟩
  exact misses.selectFlowStep isThere named settled reachable.soundSlots id value

def ordersWithLines : Engine.Mounting :=
  .ofFields
    [.repeatable (.named "orders")
      [.repeatable (.named "lines") [.leaf (.fed "product" (.dependingOn []))]]]
    (.object [])

/-- There is no order: the lines of the third one are not written, but a line is added to it, and
then there are three orders. -/
theorem ordersWithLines_written :
    itemCount (.key "orders") (mount ordersWithLines).engine.values = 0 ∧
      ((mount ordersWithLines).engine.setValue "orders[2].lines" (.array [])).2 =
        .error (.indexOutOfRange "orders" 2) ∧
      ((mount ordersWithLines).engine.addItem "orders[2].lines").2 = .ok 0 ∧
      itemCount (.key "orders")
        ((mount ordersWithLines).engine.addItem "orders[2].lines").1.values = 3 := by
  have none : itemCount (.key "orders") (mount ordersWithLines).engine.values = 0 := by
    decide +kernel
  have named : WellNamed ordersWithLines.form.fields := by decide +kernel
  have steady : (mount ordersWithLines).engine.gaveUp = false := by decide +kernel
  have parsed : parse "orders[2].lines" = .ok (((key "orders").item 2).child "lines") := by
    decide +kernel
  have missing : missingItem? (((key "orders").item 2).child "lines")
      (mount ordersWithLines).engine.values = some (key "orders", 2) := by decide +kernel
  have reachable : Reachable ordersWithLines (mount ordersWithLines) := .mounted
  generalize mount ordersWithLines = session at *
  have isThere : session.engine.locate "orders[2].lines" =
      .ok (((key "orders").item 2).child "lines",
        ⟨.repeatable (.named "lines") [.leaf (.fed "product" (.dependingOn []))],
          ⟨(key "orders").item 2, [(key "orders").item 2]⟩⟩) := by
    rw [Engine.locate, parsePath, parsed, reachable.form]
    rfl
  obtain ⟨refused, added, _⟩ :=
    Reachable.missingItem_written reachable named steady isThere missing
  refine ⟨none, congrArg Prod.snd (refused _), ?_⟩
  rcases added with ⟨_, _, full⟩ | made
  · cases full _ _ rfl
  · exact made

end Session

end DeclarativeForm
