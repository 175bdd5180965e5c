/-
# Index.OffsetIndex -- nodes by the offset at which they start

Valid spans are filed under their start, in the order of insertion.  `finish` takes down the starts in ascending
order; a lookup searches them for the last start not behind the offset asked for (or the first start, when all are
behind it) and looks into that one bucket.  Of the entries there that reach far enough the shortest wins, and the
first of equally short ones.  Spans filed after `finish` are in the buckets, but their starts are not searched until
the next `finish`.
-/
import Std.Data.ExtTreeMap
import SolidityNav.Ast.NodeType
import SolidityNav.LowerBound
import SolidityNav.Span

namespace SolidityNav.Index

set_option autoImplicit false

open SolidityNav.Ast (NodeId)

/-- A node filed under its start. -/
structure Entry where
  length : Nat
  id : NodeId
deriving DecidableEq, Inhabited, Repr

/-- The first of the shortest entries. -/
def Entry.shortest? : List Entry → Option Entry
  | [] => none
  | entry :: rest =>
      match shortest? rest with
      | some best => if best.length < entry.length then some best else some entry
      | none => some entry

/-- Nodes by start offset. -/
structure OffsetIndex where
  /-- The starts that lookups search, ascending. -/
  starts : Array Nat
  /-- The entries of each start, in the order of insertion. -/
  buckets : Std.ExtTreeMap Nat (Array Entry)

namespace OffsetIndex

def empty : OffsetIndex :=
  ⟨#[], ∅⟩

/-- Files a node under the start of its span; a span that is not valid is passed over. -/
def insert (index : OffsetIndex) (span : Span) (id : NodeId) : OffsetIndex :=
  if span.isValid then
    let entry : Entry := ⟨span.length.toInt.toNat, id⟩
    { index with
      buckets := index.buckets.alter span.start.toInt.toNat fun bucket =>
        some ((bucket.getD #[]).push entry) }
  else index

/-- Makes the starts of all entries searchable. -/
def finish (index : OffsetIndex) : OffsetIndex :=
  { index with starts := index.buckets.keys.toArray }

/-- The entries with a given start. -/
def bucket (index : OffsetIndex) (start : Nat) : List Entry :=
  (index.buckets.getD start #[]).toList

/-- The start whose bucket answers for an offset. -/
def searchedStart? (index : OffsetIndex) (offset : Nat) : Option Nat :=
  index.starts[(lowerBound? offset index.starts).getD 0]?

/-- The shortest entry of the bucket for `offset` among those that cover what is asked for. -/
def tightest? (index : OffsetIndex) (offset : Nat) (covers : Nat → Entry → Bool) : Option NodeId := do
  let start ← index.searchedStart? offset
  let entry ← Entry.shortest? ((index.bucket start).filter (covers start))
  return entry.id

/-- The tightest node around a byte. -/
def atOffset? (index : OffsetIndex) (offset : Nat) : Option NodeId :=
  index.tightest? offset fun start entry => offset < start + entry.length

/-- The tightest node around a span, as far as its end goes. -/
def atSpan? (index : OffsetIndex) (span : Span) : Option NodeId := do
  let stop ← span.stop?
  index.tightest? span.start.toInt.toNat fun start entry =>
    stop.toInt ≤ (start : Int) + entry.length

end OffsetIndex

end SolidityNav.Index
