import ChainRollback.Store.Interface

/-! # Stores with faults

A store behind faults answers a call with the fault chosen for it, if there is one, and otherwise
as the store itself. A fault may depend on the height that is asked for.
-/
namespace ChainRollback

structure StateFaults where
  load : Option StoreError := none
  save : Option StoreError := none
  loadValidators : Height → Option StoreError := fun _ => none
  loadParams : Height → Option StoreError := fun _ => none

structure BlockFaults where
  base : Option StoreError := none
  height : Option StoreError := none
  loadMeta : Height → Option StoreError := fun _ => none
  deleteLatest : Option StoreError := none

structure FaultyStateStore (σ : Type) where
  store : σ
  faults : StateFaults := {}

structure FaultyBlockStore (β : Type) where
  store : β
  faults : BlockFaults := {}

/-- The fault if there is one, else the answer. -/
def orFault {ε α : Type} (fault : Option ε) (answer : Except ε α) : Except ε α :=
  match fault with
  | some e => .error e
  | none => answer

instance {σ : Type} [StateStore σ] : StateStore (FaultyStateStore σ) where
  load s := orFault s.faults.load (StateStore.load s.store)
  save s state := orFault (s.faults.save.map .error) <|
    (StateStore.save s.store state).map fun store => { s with store := store }
  loadValidators s h := orFault (s.faults.loadValidators h) (StateStore.loadValidators s.store h)
  loadParams s h := orFault (s.faults.loadParams h) (StateStore.loadParams s.store h)

instance {β : Type} [BlockStore β] : BlockStore (FaultyBlockStore β) where
  base s := orFault s.faults.base (BlockStore.base s.store)
  height s := orFault s.faults.height (BlockStore.height s.store)
  loadMeta s h := orFault (s.faults.loadMeta h) (BlockStore.loadMeta s.store h)
  deleteLatest s := orFault (s.faults.deleteLatest.map .error) <|
    (BlockStore.deleteLatest s.store).map fun store => { s with store := store }

/-- Filling a store goes behind its faults. -/
instance {σ : Type} [StateHistory σ] : StateHistory (FaultyStateStore σ) where
  putValidators s h set := { s with store := StateHistory.putValidators s.store h set }
  putParams s h p := { s with store := StateHistory.putParams s.store h p }

instance {β : Type} [BlockLog β] : BlockLog (FaultyBlockStore β) where
  append s b := (BlockLog.append s.store b).map fun store => { s with store := store }

end ChainRollback
