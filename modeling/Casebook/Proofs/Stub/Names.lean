import Casebook.Proofs.Mount.Folder
import Casebook.Proofs.Stub.Invariant

/-!
# The names of a provider

An index has one entry for each of its names, whatever was done to it: a file of the same name takes
the place of the one that was there. So the names of a provider that came about by any history are
listed once each, and in order. Main statement: `Reachable.pairwise_names`.
-/

namespace Casebook.Stub

open Disk

namespace Index

/-- No name has two entries. -/
def IsDistinct (i : Index) : Prop := (i.entries.map Prod.fst).Nodup

theorem isDistinct_insert {i : Index} (h : i.IsDistinct) (name : Text) (o : Origin) :
    (i.insert name o).IsDistinct := by
  show ((Table.put name o i.entries).map Prod.fst).Nodup
  rw [Table.keys_put]
  split
  · exact h
  · next hnew =>
    rw [List.nodup_append']
    exact ⟨h, List.nodup_singleton name, by simpa using hnew⟩

/-- Whatever comes in, no name gets two entries. -/
theorem isKept_isDistinct : IsKept IsDistinct := by
  refine ⟨List.nodup_nil, ?_, ?_⟩
  · intro w folder name i _ hi
    exact isDistinct_insert hi name (.folder folder)
  · intro i name hi
    exact isDistinct_insert hi name .synthetic

end Index

namespace Provider

theorem Reachable.isDistinct {p : Provider} {added : List (Text × Text)} (h : p.Reachable added) :
    p.index.IsDistinct :=
  h.index Index.isKept_isDistinct

/-- Names that are distinct are listed in order, each once. -/
theorem pairwise_names {p : Provider} (h : p.index.IsDistinct) : p.names.Pairwise Precedes := by
  have hnodup : p.names.Nodup := (List.mergeSort_perm _ _).nodup_iff.mpr h
  exact (Text.pairwise_mergeSort_le _).and hnodup

theorem Reachable.pairwise_names {p : Provider} {added : List (Text × Text)}
    (h : p.Reachable added) : p.names.Pairwise Precedes :=
  Provider.pairwise_names h.isDistinct

end Provider

end Casebook.Stub
