import FederatedLearning.Proofs.ScopeStack
import FederatedLearning.Proofs.ValueTypes
import FederatedLearning.Proofs.VariableChanges

/-!
# What a run does with handles

A program holds handles to variables: it creates variables, holds a handle once more, lets
one go, and reads and writes variables through the handles that it holds.  Whatever it
does, in whatever order and with whatever failures in between, every variable keeps the
name, the element type and the sizes that it was created with.

Which handles share their contents is said without looking at the store: the lineage of a
run follows, from the operations alone, which creation each held handle goes back to.
-/

namespace FederatedLearning

/-- What is done to a variable through one of its handles. -/
inductive Access where
  | read
  | assign (source : Tensor)
  | assignAdd (addend : Tensor)
  /-- Assigns what the held handle at a position reads. -/
  | assignFrom (position : Nat)
  | reset
  | readSingles
  /-- Changes single precision elements with regard to all contents and the position. -/
  | updateSingles (change : Tensor → Nat → Float32 → Float32)

/-- What an operation on handles tells. -/
inductive Finding where
  | done
  | contents (tensor : Tensor)
  | singles (array : DenseArray Float32)

/-- Positions are those among the handles that are held, the oldest first. -/
inductive HandleOperation where
  | create (name : String) (initial : Tensor)
  | zeros (name : String) (elementType : ElementType) (sizes : List Nat)
  | clone (position : Nat)
  | drop (position : Nat)
  | through (position : Nat) (access : Access)

def Access.effect (held : List Variable) (handle : Variable) : Access → Store.Effect Finding
  | .read => do return .contents ((← get).read handle)
  | .assign source => do
      Store.assign handle source
      return .done
  | .assignAdd addend => do
      Store.assignAdd handle addend
      return .done
  | .assignFrom position =>
      match held[position]? with
      | none => return .done
      | some other => do
          Store.assign handle ((← get).read other)
          return .done
  | .reset => do
      modify (·.reset handle)
      return .done
  | .readSingles => do return .singles (← MonadExcept.ofExcept ((← get).singles handle))
  | .updateSingles change => do
      Store.updateSingles handle (change ((← get).read handle))
      return .done

/-- What the variable is declared as that the operation creates. -/
def HandleOperation.declaration? : HandleOperation → Option Declaration
  | .create name initial => some ⟨name, initial.elementType, initial.sizes⟩
  | .zeros name elementType sizes => some ⟨name, elementType, sizes⟩
  | _ => none

/-- The creations that held handles go back to, each told apart by the number of those
before it. -/
structure Lineage where
  created : Nat
  /-- The creation that each held handle goes back to. -/
  births : List Nat
deriving DecidableEq, Repr

namespace Lineage

def after (lineage : Lineage) : HandleOperation → Lineage
  | .create _ _ => ⟨lineage.created + 1, lineage.births ++ [lineage.created]⟩
  | .zeros _ _ _ => ⟨lineage.created + 1, lineage.births ++ [lineage.created]⟩
  | .clone position =>
      { lineage with births := lineage.births ++ lineage.births[position]?.toList }
  | .drop position => { lineage with births := lineage.births.eraseIdx position }
  | .through _ _ => lineage

def of (operations : List HandleOperation) : Lineage :=
  operations.foldl after ⟨0, []⟩

end Lineage

/-- A program's variables with the handles that it holds, the oldest first. -/
structure HandleTable where
  construction : Construction
  held : List Variable

namespace HandleTable

def start (construction : Construction) : HandleTable :=
  ⟨construction, []⟩

def store (table : HandleTable) : Store :=
  table.construction.store

def withStore (table : HandleTable) (store : Store) : HandleTable :=
  { table with construction := { table.construction with store } }

@[simp] theorem store_withStore (table : HandleTable) (store : Store) :
    (table.withStore store).store = store := rfl

@[simp] theorem withStore_store (table : HandleTable) : table.withStore table.store = table := rfl

def hold (table : HandleTable) (created : Variable × Construction) : HandleTable :=
  ⟨created.2, table.held ++ [created.1]⟩

/-- What the operation tells, and the table after it.  An operation that names a position
where no handle is held does nothing. -/
def perform (table : HandleTable) :
    HandleOperation → Except LearningError Finding × HandleTable
  | .create name initial =>
      (.ok .done, table.hold (Construction.create name initial table.construction))
  | .zeros name elementType sizes =>
      (.ok .done, table.hold (Construction.zeros name elementType sizes table.construction))
  | .clone position =>
      (.ok .done, { table with held := table.held ++ table.held[position]?.toList })
  | .drop position => (.ok .done, { table with held := table.held.eraseIdx position })
  | .through position access =>
      match table.held[position]? with
      | none => (.ok .done, table)
      | some handle =>
          let (outcome, construction) :=
            Construction.onStore (access.effect table.held handle) table.construction
          (outcome, { table with construction })

def run (table : HandleTable) (operations : List HandleOperation) : HandleTable :=
  operations.foldl (fun table operation => (table.perform operation).2) table

end HandleTable

namespace Access

open Store.Effect

variable (held : List Variable) (handle : Variable)

/-- An access writes to the variable of its handle only. -/
theorem writes_effect (access : Access) : Writes [handle] (access.effect held handle) := by
  cases access with
  | read => exact writes_get.bind fun _ => writes_pure _
  | assign source =>
      exact (Store.writes_assign (List.mem_singleton_self handle)).bind fun _ => writes_pure _
  | assignAdd addend =>
      exact (Store.writes_assignAdd (List.mem_singleton_self handle)).bind fun _ => writes_pure _
  | assignFrom position =>
      cases found : held[position]? with
      | none =>
          simp only [effect, found]
          exact writes_pure _
      | some other =>
          simp only [effect, found]
          apply writes_get.bind
          intro store
          exact (Store.writes_assign (List.mem_singleton_self handle)).bind fun _ => writes_pure _
  | reset =>
      have writes : Writes [handle] (modify (·.reset handle)) :=
        fun _ => Store.rewrites_reset (List.mem_singleton_self handle)
      exact writes.bind fun _ => writes_pure _
  | readSingles =>
      exact writes_get.bind fun _ => (writes_ofExcept _).bind fun _ => writes_pure _
  | updateSingles change =>
      apply writes_get.bind
      intro store
      exact (Store.writes_updateSingles (List.mem_singleton_self handle)).bind
        fun _ => writes_pure _

theorem atomic_effect (access : Access) : Atomic (access.effect held handle) := by
  cases access with
  | read => exact atomic_get_bind fun _ => atomic_pure _
  | assign source => exact Store.atomic_update.bind_pure _
  | assignAdd addend => exact Store.atomic_update.bind_pure _
  | assignFrom position =>
      cases found : held[position]? with
      | none =>
          simp only [effect, found]
          exact atomic_pure _
      | some other =>
          simp only [effect, found]
          exact atomic_get_bind fun _ => Store.atomic_update.bind_pure _
  | reset =>
      intro store error failed
      cases failed
  | readSingles => exact atomic_get_bind fun _ => atomic_ofExcept_bind fun _ => atomic_pure _
  | updateSingles change => exact atomic_get_bind fun _ => Store.atomic_update.bind_pure _

end Access

namespace HandleTable

variable {table : HandleTable} {operations : List HandleOperation} {operation : HandleOperation}
  {access : Access} {position : Nat} {handle : Variable}

theorem store_hold_create (name : String) (initial : Tensor) :
    (table.hold (Construction.create name initial table.construction)).store =
      (table.store.create name initial).2 := by
  simp [hold, store, Construction.create_apply]

theorem perform_through_of_held (found : table.held[position]? = some handle) :
    table.perform (.through position access) =
      ((access.effect table.held handle table.store).1,
        table.withStore (access.effect table.held handle table.store).2) := by
  simp only [perform, found]
  rfl

theorem perform_through_of_absent (absent : table.held[position]? = none) :
    table.perform (.through position access) = (.ok .done, table) := by
  simp only [perform, absent]

/-- What is known of a table after a run: the declarations of its variables, and the
creations that the held handles go back to. -/
structure Follows (before : Store) (declared : List Declaration) (lineage : Lineage)
    (table : HandleTable) : Prop where
  declarations : table.store.declarations = before.declarations ++ declared
  created : lineage.created = declared.length
  held : table.held = lineage.births.map fun birth => ⟨before.cells.length + birth⟩
  births : ∀ birth ∈ lineage.births, birth < lineage.created

variable {before : Store} {declared : List Declaration} {lineage : Lineage}

theorem follows_start (construction : Construction) :
    Follows construction.store [] ⟨0, []⟩ (start construction) where
  declarations := by simp [start, store]
  created := rfl
  held := rfl
  births := by simp

theorem Follows.length_cells (follows : Follows before declared lineage table) :
    table.store.cells.length = before.cells.length + lineage.created := by
  have lengths := congrArg List.length follows.declarations
  simpa [Store.declarations, follows.created] using lengths

theorem Follows.hold (follows : Follows before declared lineage table) (name : String)
    (initial : Tensor) :
    Follows before (declared ++ [⟨name, initial.elementType, initial.sizes⟩])
      ⟨lineage.created + 1, lineage.births ++ [lineage.created]⟩
      (table.hold (Construction.create name initial table.construction)) where
  declarations := by
    rw [store_hold_create, Store.declarations_create, follows.declarations, List.append_assoc]
  created := by simp [follows.created]
  held := by
    rw [HandleTable.hold, follows.held, List.map_append, List.map_singleton,
      ← follows.length_cells]
    rfl
  births birth inside := by
    rcases List.mem_append.mp inside with old | new
    · exact Nat.lt_succ_of_lt (follows.births birth old)
    · rw [List.mem_singleton.mp new]
      exact Nat.lt_succ_self _

theorem Follows.perform (follows : Follows before declared lineage table)
    (operation : HandleOperation) :
    Follows before (declared ++ operation.declaration?.toList) (lineage.after operation)
      (table.perform operation).2 := by
  cases operation with
  | create name initial => exact follows.hold name initial
  | zeros name elementType sizes =>
      have held := follows.hold name (.zeros elementType sizes)
      cases elementType <;> exact held
  | clone position =>
      change Follows before (declared ++ []) _ _
      rw [List.append_nil]
      refine ⟨follows.declarations, follows.created, ?_, ?_⟩
      · simp only [HandleTable.perform, Lineage.after, follows.held, List.map_append,
          List.getElem?_map]
        cases lineage.births[position]? <;> rfl
      · intro birth inside
        rcases List.mem_append.mp inside with old | again
        · exact follows.births birth old
        · exact follows.births birth (List.mem_of_getElem? (Option.mem_toList.mp again))
  | drop position =>
      change Follows before (declared ++ []) _ _
      rw [List.append_nil]
      refine ⟨follows.declarations, follows.created, ?_, ?_⟩
      · simp only [HandleTable.perform, Lineage.after, follows.held, List.eraseIdx_map]
      · intro birth inside
        exact follows.births birth (List.mem_of_mem_eraseIdx inside)
  | through position access =>
      change Follows before (declared ++ []) _ _
      rw [List.append_nil]
      cases found : table.held[position]? with
      | none =>
          rw [perform_through_of_absent found]
          exact follows
      | some handle =>
          rw [perform_through_of_held found]
          have kept := (access.writes_effect table.held handle table.store).declarations_eq
          exact ⟨kept.trans follows.declarations, follows.created, follows.held, follows.births⟩

theorem Follows.run (follows : Follows before declared lineage table)
    (operations : List HandleOperation) :
    Follows before (declared ++ operations.filterMap HandleOperation.declaration?)
      (operations.foldl Lineage.after lineage) (table.run operations) := by
  -- what was declared before joins what the first operation declares
  induction operations generalizing table declared lineage with
  | nil => simpa [HandleTable.run] using follows
  | cons operation operations induction =>
      have later := induction (follows.perform operation)
      rw [List.append_assoc] at later
      cases declares : operation.declaration? with
      | none => simpa [HandleTable.run, List.filterMap_cons, declares] using later
      | some declaration => simpa [HandleTable.run, List.filterMap_cons, declares] using later

theorem follows_of_run (construction : Construction) (operations : List HandleOperation) :
    Follows construction.store (operations.filterMap HandleOperation.declaration?)
      (.of operations) ((start construction).run operations) :=
  (follows_start construction).run operations

theorem Follows.holds (follows : Follows before declared lineage table) :
    ∀ handle ∈ table.held, table.store.Holds handle := by
  intro handle inside
  rw [follows.held] at inside
  obtain ⟨birth, listed, rfl⟩ := List.mem_map.mp inside
  rw [Store.Holds, follows.length_cells]
  exact Nat.add_lt_add_left (follows.births birth listed) _

/-- Handles that go back to one creation are equal. -/
theorem Follows.held_eq (follows : Follows before declared lineage table) {first second : Nat}
    (sameBirth : lineage.births[first]? = lineage.births[second]?) :
    table.held[first]? = table.held[second]? := by
  rw [follows.held, List.getElem?_map, List.getElem?_map, sameBirth]

theorem eq_of_perform_eq_error {error : LearningError} {after : HandleTable}
    (failed : table.perform operation = (.error error, after)) : after = table := by
  cases operation with
  | create name initial => cases failed
  | zeros name elementType sizes => cases failed
  | clone position => cases failed
  | drop position => cases failed
  | through position access =>
      cases found : table.held[position]? with
      | none =>
          rw [perform_through_of_absent found] at failed
          cases failed
      | some handle =>
          rw [perform_through_of_held found] at failed
          obtain ⟨refused, rfl⟩ := Prod.mk.inj failed
          rw [access.atomic_effect table.held handle table.store error refused, withStore_store]

/-- An operation leaves alone what its handle is not a handle to. -/
theorem cell_perform_eq (alive : table.store.Holds handle)
    (apart : ∀ position access, operation = .through position access →
      table.held[position]? ≠ some handle) :
    (table.perform operation).2.store.cell handle = table.store.cell handle := by
  cases operation with
  | create name initial =>
      rw [perform, store_hold_create]
      exact Store.cell_create_of_holds alive
  | zeros name elementType sizes =>
      rw [perform, Construction.zeros, store_hold_create]
      exact Store.cell_create_of_holds alive
  | clone position => rfl
  | drop position => rfl
  | through position access =>
      cases found : table.held[position]? with
      | none => rw [perform_through_of_absent found]
      | some target =>
          rw [perform_through_of_held found]
          apply (access.writes_effect table.held target table.store).cell_eq
          intro inside
          rw [List.mem_singleton.mp inside] at apart
          exact apart position access rfl found

/-- After any run, with failures or without, the variables are declared as they were
created, and the handles that are held are those of the creations that they go back to.
One more operation changes nothing if it fails, and if it does not, then nothing but the
variable of its handle.  Handles that go back to one creation read the same, and no other
access tells them apart either. -/
theorem run_keeps_variables_apart (construction : Construction)
    (operations : List HandleOperation) (operation : HandleOperation)
    (table after : HandleTable) (outcome : Except LearningError Finding)
    (reached : (start construction).run operations = table)
    (performed : table.perform operation = (outcome, after)) :
    table.store.declarations =
        construction.store.declarations ++ operations.filterMap HandleOperation.declaration? ∧
      (∀ cell ∈ table.store.cells, cell.contents.size = volume cell.contents.sizes) ∧
      (∀ error, outcome = .error error → after = table) ∧
      (∀ other, table.store.Holds other →
        (∀ position access, operation = .through position access →
          table.held[position]? ≠ some other) →
        after.store.cell other = table.store.cell other) ∧
      (table.held = (Lineage.of operations).births.map fun birth =>
        ⟨construction.store.cells.length + birth⟩) ∧
      (∀ handle ∈ table.held, table.store.Holds handle) ∧
      ∀ first second access,
        (Lineage.of operations).births[first]? = (Lineage.of operations).births[second]? →
        table.perform (.through first access) = table.perform (.through second access) := by
  have follows := follows_of_run construction operations
  rw [reached] at follows
  refine ⟨follows.declarations, ?_, ?_, ?_, follows.held, follows.holds, ?_⟩
  · intro cell _
    exact cell.contents.size_eq_volume
  · intro error failed
    subst failed
    exact eq_of_perform_eq_error performed
  · intro other alive apart
    have kept := cell_perform_eq alive apart
    rwa [performed] at kept
  · intro first second access sameBirth
    simp only [perform, follows.held_eq sameBirth]

/-- Adds to a total through two handles, and tries to write a total over a bias. -/
def sharedTotal : List HandleOperation :=
  [.create "total" (.int64 (.scalar 1)), .zeros "bias" .float32 [2], .clone 0,
    .through 0 (.assignAdd (.int64 (.scalar 2))), .through 1 (.assignFrom 2),
    .through 2 (.assignAdd (.int64 (.scalar 4)))]

theorem sharedTotal_keeps_variables_apart :
    ∃ table after error, (start .empty).run sharedTotal = table ∧
      table.perform (.through 1 (.assignFrom 2)) = (.error error, after) ∧ after = table ∧
      table.store.declarations = [⟨"total", .int64, []⟩, ⟨"bias", .float32, [2]⟩] ∧
      table.held = [⟨0⟩, ⟨1⟩, ⟨0⟩] ∧
      (table.perform (.through 0 .read)).1 = .ok (.contents (.int64 (.scalar 7))) ∧
      (table.perform (.through 2 .read)).1 = .ok (.contents (.int64 (.scalar 7))) := by
  obtain ⟨declarations, _, unchanged, _, held, _, same⟩ :=
    run_keeps_variables_apart .empty sharedTotal (.through 1 (.assignFrom 2)) _ _ _ rfl rfl
  refine ⟨_, _, _, rfl, rfl, unchanged _ rfl, declarations, held, rfl, ?_⟩
  rw [← same 0 2 .read rfl]
  rfl

end HandleTable

end FederatedLearning
