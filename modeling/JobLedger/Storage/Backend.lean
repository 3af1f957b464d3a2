import JobLedger.Storage.Layout

/-!
# Storage backends

The history is written against a small surface: an instance owns tables,
a table has rows. `Backend ι σ` is that surface as functions on a state:
an `ι` says which instance is meant, a `σ` is everything the instance
lives in. Reading never changes the state; writing returns the new one,
also when it fails, because a failed write may have done a part of its
work.

A table is used through a handle, which remembers the layout the table had
when it was opened. The table itself is looked up again at every call.
-/

namespace JobLedger

structure TableHandle where
  /-- The name it was opened under. -/
  name : String
  /-- The layout it had then. -/
  layout : TableLayout
deriving DecidableEq, Repr

/-- The operations of a storage instance. -/
class Backend (ι : Type) (σ : outParam Type) where
  /-- The address of the instance. -/
  uri : ι → σ → String
  tableExists : ι → String → σ → Except StoreError Bool
  /-- Refused with `tableExists` if there is a table of that name. -/
  createTable : ι → TableLayout → σ → Except StoreError Unit × σ
  /-- Refused with `tableNotFound` if there is none. -/
  deleteTable : ι → String → σ → Except StoreError Unit × σ
  openTable : ι → String → σ → Except StoreError TableHandle
  /-- Writes several cells of one row at once. -/
  putRow : ι → TableHandle → String → List Cell → σ → Except StoreError Unit × σ
  /-- The row under a key, if anything was ever written under it. -/
  getRow : ι → TableHandle → String → σ → Except StoreError (Option Row)
  /-- The first rows behind a key, in the order of their keys. -/
  scan : ι → TableHandle → Option String → Nat → σ → Except StoreError (List Row)

/-- Writes one cell. -/
def Backend.put {ι σ : Type} [Backend ι σ] (i : ι) (t : TableHandle) (key : String) (c : Cell)
    (s : σ) : Except StoreError Unit × σ :=
  Backend.putRow i t key [c] s

end JobLedger
