import ChainRollback.Store.Interface

/-! # One of two stores

A node keeps its records in one of several ways, and what is generic over a store need not know
which. A value of either kind of store is a store.
-/
namespace ChainRollback

instance {σ τ : Type} [StateStore σ] [StateStore τ] : StateStore (σ ⊕ τ) where
  load
    | .inl s => StateStore.load s
    | .inr s => StateStore.load s
  save
    | .inl s, state => (StateStore.save s state).map .inl
    | .inr s, state => (StateStore.save s state).map .inr
  loadValidators
    | .inl s, h => StateStore.loadValidators s h
    | .inr s, h => StateStore.loadValidators s h
  loadParams
    | .inl s, h => StateStore.loadParams s h
    | .inr s, h => StateStore.loadParams s h

instance {β γ : Type} [BlockStore β] [BlockStore γ] : BlockStore (β ⊕ γ) where
  base
    | .inl s => BlockStore.base s
    | .inr s => BlockStore.base s
  height
    | .inl s => BlockStore.height s
    | .inr s => BlockStore.height s
  loadMeta
    | .inl s, h => BlockStore.loadMeta s h
    | .inr s, h => BlockStore.loadMeta s h
  deleteLatest
    | .inl s => (BlockStore.deleteLatest s).map .inl
    | .inr s => (BlockStore.deleteLatest s).map .inr

instance {σ τ : Type} [StateHistory σ] [StateHistory τ] : StateHistory (σ ⊕ τ) where
  putValidators s h set := s.map (StateHistory.putValidators · h set)
    (StateHistory.putValidators · h set)
  putParams s h p := s.map (StateHistory.putParams · h p) (StateHistory.putParams · h p)

instance {β γ : Type} [BlockLog β] [BlockLog γ] : BlockLog (β ⊕ γ) where
  append
    | .inl s, b => (BlockLog.append s b).map .inl
    | .inr s, b => (BlockLog.append s b).map .inr

end ChainRollback
