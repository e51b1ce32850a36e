import DeclarativeForm.Proofs.Items.Keys
import DeclarativeForm.Proofs.Sync.Current
import DeclarativeForm.Proofs.Sync.Repeat
import DeclarativeForm.Proofs.Tree.Shift

/-!
The removal of an item. The item is taken out of the values, and whatever is kept for later items
moves down with them: errors, slots, states of flows, marks of passwords and queued tickets. What
follows from the values is then brought up to date, and nothing is left to do: every flow has a
state, and the options of every field were asked for with the arguments it has now.
-/

set_option autoImplicit false

namespace DeclarativeForm

open FieldPath

/-! ### Tables and queues that are moved -/

/-- The items of a list are moved or lost one by one, and stay in their order. -/
inductive Shifts {α : Type} (moves : α → Option α → Prop) : List α → List α → Prop
  | nil : Shifts moves [] []
  | moved {old new : α} {before after : List α} (here : moves old (some new))
      (rest : Shifts moves before after) : Shifts moves (old :: before) (new :: after)
  | gone {old : α} {before after : List α} (here : moves old none)
      (rest : Shifts moves before after) : Shifts moves (old :: before) after

theorem Shifts.of_filterMap {α : Type} {moves : α → Option α → Prop} {move : α → Option α}
    (items : List α) (follows : ∀ item ∈ items, moves item (move item)) :
    Shifts moves items (items.filterMap move) := by
  induction items with
  | nil => exact .nil
  | cons item rest ih =>
      have here := follows item List.mem_cons_self
      have later := ih fun other member => follows other (List.mem_cons_of_mem _ member)
      cases lands : move item with
      | none =>
          rw [lands] at here
          rw [List.filterMap_cons_none lands]
          exact .gone here later
      | some new =>
          rw [lands] at here
          rw [List.filterMap_cons_some lands]
          exact .moved here later

def EntryMoves {α : Type} (fields : List Node) (moves : FieldPath → Option FieldPath)
    (entry : String × α) (after : Option (String × α)) : Prop :=
  ∃ path, IsKeyPath fields path ∧ path.text = entry.1 ∧
    after = (moves path).map fun path => (path.text, entry.2)

def FetchTarget.atPath (target : FetchTarget) (path : FieldPath) : FetchTarget :=
  match target with
  | field _ => .field path.text
  | flowStep _ step => .flowStep path.text step

def TicketMoves (fields : List Node) (moves : FieldPath → Option FieldPath) (ticket : Ticket)
    (after : Option Ticket) : Prop :=
  ∃ path, IsKeyPath fields path ∧ path.text = ticket.target.owner ∧
    after = (moves path).map fun path => { ticket with target := ticket.target.atPath path }

/-- The paths whose texts show where they go: those of the form, and all of plain names. -/
def IsMarkPath (fields : List Node) (path : FieldPath) : Prop :=
  IsKeyPath fields path ∨ IsPlain path.segments

/-- A mark goes where its text goes, and with the text of a path it goes where the path goes. -/
def MarkMoves (fields : List Node) (list : FieldPath) (removed : Nat) (mark : String × Bool)
    (after : Option (String × Bool)) : Prop :=
  (after = (reindexKey mark.1 list.text removed).map fun key => (key, mark.2)) ∧
    ∀ path, IsMarkPath fields path → path.text = mark.1 →
      after = (afterRemoval list removed path).map fun path => (path.text, mark.2)

section Moving

variable {fields : List Node} {repeatable : FieldPath} {head : Repeatable} {template : List Node}
  {place : Context} (named : WellNamed fields)
  (isList : Addresses fields .root repeatable.segments ⟨.repeatable head template, place⟩)

include named isList

theorem Keyed.Within.apart {α : Type} {table : Keyed α}
    (within : Keyed.Within (IsKey fields) table) (removed : Nat) :
    ∀ one ∈ Keyed.keys table, ∀ two ∈ Keyed.keys table, ∀ key,
      reindexKey one repeatable.text removed = some key →
      reindexKey two repeatable.text removed = some key → one = two := by
  intro one isOne two isTwo key first second
  exact (within.keys one isOne).reindexKey_injective (within.keys two isTwo) named isList first
    second

/-- A table of a form moves as the paths do that it is keyed by. -/
theorem Keyed.Within.shifts {α : Type} {table : Keyed α}
    (within : Keyed.Within (IsKey fields) table) (removed : Nat) :
    Shifts (EntryMoves fields (afterRemoval repeatable removed)) table
      (table.reindex repeatable.text removed) := by
  rw [Keyed.reindex_eq_moved within.distinct (within.apart named isList removed)]
  apply Shifts.of_filterMap
  intro entry member
  obtain ⟨path, isPath, text⟩ := within.keys entry.1 (List.mem_map_of_mem member)
  refine ⟨path, isPath, text, ?_⟩
  rw [← text, isPath.reindexKey_text named isList, Option.map_map]
  rfl

/-- What is under a key after a removal was under the key that moves there. -/
theorem Keyed.Within.exists_former {α : Type} {table : Keyed α}
    (within : Keyed.Within (IsKey fields) table) {target : FieldPath}
    (isPath : IsKeyPath fields target) {removed : Nat} {value : α}
    (found : (table.reindex repeatable.text removed).find? target.text = some value) :
    ∃ path, afterRemoval repeatable removed path = some target ∧
      table.find? path.text = some value := by
  obtain ⟨key, moves, isThere⟩ := Keyed.find?_reindex within.distinct found
  obtain ⟨path, isOld, rfl⟩ := within.keys key (Keyed.mem_keys_of_find? isThere)
  rw [isOld.reindexKey_text named isList] at moves
  obtain ⟨other, isOther, same⟩ := Option.map_eq_some_iff.mp moves
  rw [(isOld.afterRemoval isOther).eq_of_text isPath named same] at isOther
  exact ⟨path, isOther, isThere⟩

theorem Keyed.Within.find?_moved {α : Type} {table : Keyed α}
    (within : Keyed.Within (IsKey fields) table) {path target : FieldPath}
    (isPath : IsKeyPath fields path) {removed : Nat}
    (moves : afterRemoval repeatable removed path = some target) :
    (table.reindex repeatable.text removed).find? target.text = table.find? path.text := by
  have lands : reindexKey path.text repeatable.text removed = some target.text := by
    rw [isPath.reindexKey_text named isList, moves]
    rfl
  have apart := within.apart named isList removed
  cases found : table.find? path.text with
  | some value => exact Keyed.find?_reindex_of_moves within.distinct apart found lands
  | none =>
      cases moved : (table.reindex repeatable.text removed).find? target.text with
      | none => rfl
      | some value =>
          obtain ⟨old, isOld, isThere⟩ := Keyed.find?_reindex within.distinct moved
          have isKey := within.keys old (Keyed.mem_keys_of_find? isThere)
          rw [isKey.reindexKey_injective ⟨path, isPath, rfl⟩ named isList isOld lands, found]
            at isThere
          cases isThere

theorem shifts_tickets {pending : List Ticket}
    (areKeys : ∀ ticket ∈ pending, IsKey fields ticket.target.owner) (removed : Nat) :
    Shifts (TicketMoves fields (afterRemoval repeatable removed)) pending
      (pending.filterMap fun ticket => ticket.reindex repeatable.text removed) := by
  apply Shifts.of_filterMap
  intro ticket member
  obtain ⟨path, isPath, text⟩ := areKeys ticket member
  refine ⟨path, isPath, text, ?_⟩
  obtain ⟨target, generation, function, args⟩ := ticket
  cases target with
  | field key =>
      obtain rfl : path.text = key := text
      rw [Ticket.reindex, FetchTarget.reindex, isPath.reindexKey_text named isList, Option.map_map,
        Option.map_map]
      rfl
  | flowStep key step =>
      obtain rfl : path.text = key := text
      rw [Ticket.reindex, FetchTarget.reindex, isPath.reindexKey_text named isList, Option.map_map,
        Option.map_map]
      rfl

theorem IsMarkPath.showsItem {path : FieldPath} (isPath : IsMarkPath fields path) :
    ShowsItem repeatable.segments path.segments := by
  rcases isPath with isKey | plain
  · exact isKey.showsItem named isList
  · exact (isList.isPlain named rfl).isWritable.showsItem plain.isWritable

theorem shifts_marks (table : Keyed Bool) (removed : Nat) :
    Shifts (MarkMoves fields repeatable removed) table
      (Keyed.moved repeatable.text removed table) := by
  apply Shifts.of_filterMap
  intro mark _
  refine ⟨rfl, fun path isPath text => ?_⟩
  have moves := reindexKey_text (isList.alternating named rfl).ne_nil
    (isPath.showsItem named isList) removed
  rw [← text, moves, Option.map_map]
  rfl

theorem reindex_marks {table : Keyed Bool} (distinct : Keyed.Distinct table)
    (arePaths : ∀ key ∈ Keyed.keys table, ∃ path, IsMarkPath fields path ∧ path.text = key)
    (removed : Nat) :
    table.reindex repeatable.text removed = Keyed.moved repeatable.text removed table := by
  apply Keyed.reindex_eq_moved distinct
  intro one isOne two isTwo key first second
  obtain ⟨path, isPath, rfl⟩ := arePaths one isOne
  obtain ⟨other, isOther, rfl⟩ := arePaths two isTwo
  exact reindexKey_injective (isList.alternating named rfl).ne_nil
    (isPath.showsItem named isList) (isOther.showsItem named isList) first second

end Moving

/-! ### Before the fields are brought up to date -/

namespace Engine

theorem removeItem_eq_ok {engine : Engine} {text : String} {index : Nat} {path : FieldPath}
    (parsed : parse text = .ok path) (done : (engine.removeItem text index).2 = .ok ()) :
    (∃ head template place, Addresses engine.form.fields .root path.segments
        ⟨.repeatable head template, place⟩) ∧
      index < itemCount path engine.values ∧
      (engine.removeItem text index).1 =
        ((engine.withoutItem path index).refreshDerived (some path.text)).emitChange := by
  have reached := engine.removeItem_removal text index
  generalize engine.removeItem text index = result at reached done ⊢
  cases reached with
  | refused rejection => cases done
  | least found message rejection => cases done
  | @removed spot head template place found inRange =>
      obtain ⟨read, addresses⟩ := locate_eq_ok found
      obtain rfl : path = spot := Except.ok.inj (parsed.symm.trans read)
      exact ⟨⟨head, template, place, addresses⟩, inRange, rfl⟩

theorem exists_items {path : FieldPath} {values : Json} {index : Nat}
    (inRange : index < itemCount path values) :
    ∃ items, path.get? values = some (.array items) ∧ index < items.length ∧
      itemCount path values = items.length := by
  unfold itemCount at inRange ⊢
  split at inRange
  · rename_i items found
    exact ⟨items, found, inRange, rfl⟩
  · cases inRange

section Removed

variable {engine : Engine} {path : FieldPath} {head : Repeatable} {template : List Node}
  {place : Context} {index : Nat} {items : List Json}

theorem withoutItem_values (found : path.get? engine.values = some (.array items))
    (inRange : index < items.length) :
    (engine.withoutItem path index).values =
      path.set engine.values (.array (items.eraseIdx index)) :=
  without_item found inRange

theorem withoutItem_erased (found : path.get? engine.values = some (.array items))
    (inRange : index < items.length) (few : items.length ≤ indexLimit) :
    Erased index path.segments engine.values (engine.withoutItem path index).values := by
  rw [withoutItem_values found inRange]
  exact setAt_erased found inRange few

theorem withoutItem_sound (sound : engine.SoundSlots)
    (distinct : Keyed.Distinct engine.store.slots) :
    (engine.withoutItem path index).SoundSlots := by
  intro key
  unfold Store.slotOrEmpty
  cases isThere : (engine.withoutItem path index).store.slot? key with
  | none => exact OptionsSlot.sound_ofGeneration 0
  | some slot =>
      obtain ⟨old, _, wasThere⟩ := Keyed.find?_reindex distinct isThere
      have oldSound := sound old
      have isOld : engine.store.slot? old = some slot := wasThere
      rw [Store.slotOrEmpty, isOld] at oldSound
      exact oldSound

variable (orderly : engine.Orderly engine.form.fields) (named : WellNamed engine.form.fields)
  (past : LooksPast engine.form.fields)
  (isList : Addresses engine.form.fields .root path.segments ⟨.repeatable head template, place⟩)
  (erased : Erased index path.segments engine.values (engine.withoutItem path index).values)

include orderly named past isList erased

theorem withoutItem_started (started : engine.Started) :
    (engine.withoutItem path index).Started := by
  intro flowPlace member
  obtain ⟨old, isOld, moves⟩ := exists_flowPlace past isList erased member
  obtain ⟨state, present⟩ := Option.isSome_iff_exists.mp (started old isOld)
  have lands : reindexKey old.path.text path.text index = some flowPlace.path.text := by
    rw [(isKeyPath_of_mem_flowPlaces named isOld).reindexKey_text named isList, moves]
    rfl
  have found := Keyed.find?_reindex_of_moves orderly.flows.distinct
    (orderly.flows.apart named isList index) present lands
  exact Option.isSome_iff_exists.mpr ⟨state, found⟩

theorem withoutItem_settled (settled : engine.Settled) :
    (engine.withoutItem path index).Settled := by
  intro binding member
  obtain ⟨old, isOld, args, moves⟩ := exists_binding past isList erased member
  obtain ⟨slot, isThere, same⟩ := settled old isOld
  have lands : reindexKey old.key path.text index = some binding.key := by
    rw [OptionBinding.key, (isKeyPath_of_mem_bindings named isOld).reindexKey_text named isList,
      moves]
    rfl
  refine ⟨slot, ?_, args ▸ same⟩
  exact Keyed.find?_reindex_of_moves orderly.slots.distinct
    (orderly.slots.apart named isList index) isThere lands

end Removed

/-! ### After the fields are brought up to date -/

/-- What the removal of an item comes to: the item is gone from its list, and whatever was kept for
later items has moved down with them. -/
structure ShiftsItems (fields : List Node) (path : FieldPath) (index : Nat)
    (before after : Engine) : Prop where
  values : ∃ items, path.get? before.values = some (.array items) ∧ index < items.length ∧
    after.values = path.set before.values (.array (items.eraseIdx index))
  errors : ∃ moved, Shifts (EntryMoves fields (afterRemoval path index)) before.store.errors moved ∧
    after.store.errors = Keyed.erase path.text moved
  flows : Shifts (EntryMoves fields (afterRemoval path index)) before.store.flows after.store.flows
  slots : ∃ moved, Shifts (EntryMoves fields (afterRemoval path index)) before.store.slots moved ∧
    Keyed.Related OptionsSlot.Keeps moved after.store.slots
  /-- Of marks that come to be under one text the last one counts. -/
  passwords : ∃ moved,
    Shifts (MarkMoves fields path index) before.store.shownPasswords moved ∧
      after.store.shownPasswords = Keyed.ofList moved
  /-- Marks under texts of paths do not come to be under one text. -/
  marks : (∀ key ∈ Keyed.keys before.store.shownPasswords,
      ∃ path, IsMarkPath fields path ∧ path.text = key) →
    Shifts (MarkMoves fields path index) before.store.shownPasswords after.store.shownPasswords
  pending : ∃ moved fresh,
    Shifts (TicketMoves fields (afterRemoval path index)) before.pending moved ∧
      after.pending = moved ++ fresh ∧ ∀ ticket ∈ fresh, before.next ≤ ticket.generation

theorem Orderly.shiftsItems {engine after : Engine} {path : FieldPath} {head : Repeatable}
    {template : List Node} {place : Context} {index : Nat} {items : List Json}
    (orderly : engine.Orderly engine.form.fields) (named : WellNamed engine.form.fields)
    (isList : Addresses engine.form.fields .root path.segments ⟨.repeatable head template, place⟩)
    (found : path.get? engine.values = some (.array items)) (inRange : index < items.length)
    (repeats : (engine.withoutItem path index).Repeats after) :
    engine.ShiftsItems engine.form.fields path index after where
  values := by
    have values := repeats.keeps Store.values fun _ _ => rfl
    exact ⟨items, found, inRange, values.trans (withoutItem_values found inRange)⟩
  errors := by
    have errors := repeats.keeps Store.errors fun _ _ => rfl
    exact ⟨_, orderly.errors.shifts named isList index, errors⟩
  flows := by
    rw [repeats.keeps Store.flows fun _ _ => rfl]
    exact orderly.flows.shifts named isList index
  slots := ⟨_, orderly.slots.shifts named isList index, repeats.slots⟩
  passwords := by
    refine ⟨_, shifts_marks named isList engine.store.shownPasswords index, ?_⟩
    rw [repeats.keeps Store.shownPasswords fun _ _ => rfl]
    exact Keyed.reindex_eq_ofList _ _ _
  marks arePaths := by
    have moved := reindex_marks named isList orderly.passwords arePaths index
    rw [repeats.keeps Store.shownPasswords fun _ _ => rfl]
    change Shifts _ _ (Keyed.reindex engine.store.shownPasswords path.text index)
    rw [moved]
    exact shifts_marks named isList engine.store.shownPasswords index
  pending := by
    obtain ⟨fresh, queued, isFresh⟩ := repeats.pending
    exact ⟨_, fresh, shifts_tickets named isList orderly.pending index, queued, isFresh⟩

end Engine

/-- The removal of an item is a shift: the item is gone from its list and nothing else from the
values, and errors, slots, flows, marks of passwords and queued tickets move with the items. The
list holds no more items than there are indices. -/
theorem Session.Reachable.removeItem_shifts {mounting : Engine.Mounting} {session : Session}
    (reachable : Reachable mounting session) (named : WellNamed mounting.form.fields)
    (past : LooksPast mounting.form.fields) (steady : session.engine.gaveUp = false)
    {text : String} {path : FieldPath} {index : Nat} (parsed : parse text = .ok path)
    (fits : itemCount path session.engine.values ≤ indexLimit)
    (done : (session.engine.removeItem text index).2 = .ok ()) :
    session.engine.ShiftsItems mounting.form.fields path index
      (session.engine.removeItem text index).1 := by
  have settled := reachable.settled named steady
  have started := reachable.started named
  have sound := reachable.soundSlots
  have orderly := reachable.orderly named
  have form : session.engine.form.fields = mounting.form.fields := by
    rw [reachable.form]
  rw [← form] at named past orderly ⊢
  obtain ⟨⟨head, template, place, isList⟩, inside, same⟩ := Engine.removeItem_eq_ok parsed done
  obtain ⟨items, found, inRange, count⟩ := Engine.exists_items inside
  have erased := Engine.withoutItem_erased found inRange (count ▸ fits)
  have repeats := (Engine.withoutItem_settled orderly named past isList erased settled)
    |>.refreshDerived_repeats
      (Engine.withoutItem_started orderly named past isList erased started)
      (Engine.withoutItem_sound sound orderly.slots.distinct) named (some path.text)
  rw [same]
  exact orderly.shiftsItems named isList found inRange repeats.emitChange

namespace Session

def twoOrders : Engine.Mounting :=
  .ofFields
    [.repeatable (.named "orders")
      [.repeatable (.named "lines") [.leaf (.fed "product" (.dependingOn []))]]]
    (.object [("orders", .array
      [.object [("lines", .array [.object [], .object []])],
        .object [("lines", .array [.object []])]])])

/-- The first line of the first order is removed: its ticket goes, and that of the second line is
now for the first. -/
theorem twoOrders_shifts :
    (mount twoOrders).engine.ShiftsItems twoOrders.form.fields
        (((key "orders").item 0).child "lines") 0
        ((mount twoOrders).engine.removeItem "orders[0].lines" 0).1 ∧
      ((mount twoOrders).engine.removeItem "orders[0].lines" 0).1.pending.map Ticket.target =
        [.field "orders[0].lines[0].product", .field "orders[1].lines[0].product"] := by
  have named : WellNamed twoOrders.form.fields := by decide +kernel
  have past : LooksPast twoOrders.form.fields := by decide +kernel
  have steady : (mount twoOrders).engine.gaveUp = false := by decide +kernel
  have parsed : parse "orders[0].lines" = .ok (((key "orders").item 0).child "lines") := by
    decide +kernel
  have fits : itemCount (((key "orders").item 0).child "lines")
      (mount twoOrders).engine.values ≤ indexLimit := by decide +kernel
  have done : ((mount twoOrders).engine.removeItem "orders[0].lines" 0).2 = .ok () := by
    decide +kernel
  have queued : ((mount twoOrders).engine.removeItem "orders[0].lines" 0).1.pending.map
      Ticket.target =
        [.field "orders[0].lines[0].product", .field "orders[1].lines[0].product"] := by
    decide +kernel
  have reachable : Reachable twoOrders (mount twoOrders) := .mounted
  generalize mount twoOrders = session at *
  exact ⟨Reachable.removeItem_shifts reachable named past steady parsed fits done, queued⟩

end Session

end DeclarativeForm
