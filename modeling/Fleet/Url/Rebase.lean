import Fleet.Url.Basic

/-!
# `Fleet.Url.Rebase`: links that lead through a gateway

A gateway stands between devices and a storage service. A link that is rebased onto the
address of the gateway keeps its path, below the gateway's, its fragment and its pairs, except
for those that the gateway sets itself; the merged pairs are in the order of their names.
-/

set_option autoImplicit false

namespace Fleet.Url

/-- Two paths with one slash between them. -/
def joinPaths (base tail : String) : String :=
  String.ofList
    ((base.toList.reverse.dropWhile (· = '/')).reverse ++ '/' :: tail.toList.dropWhile (· = '/'))

/-- Whether a pair comes before another or may stand beside it: the order of names. -/
def pairBefore (p q : Pair) : Bool := !(q.1 < p.1)

/-- The pairs of a link that a gateway does not set, and those of the gateway, in the order of
names; pairs of one name keep their order. -/
def mergePairs (link gateway : List Pair) : List Pair :=
  (link.filter (fun p => !gateway.any (·.1 == p.1)) ++ gateway).mergeSort pairBefore

/-- The link that leads through a gateway. -/
def rebase (link gateway : Url) : Url :=
  let pairs := mergePairs link.pairs gateway.pairs
  { gateway.withPath (joinPaths gateway.path.text link.path.text) with
    query := if pairs.isEmpty then none else some (renderPairs pairs)
    fragment := link.fragment }

/-- The link that leads through a gateway, if there is one. -/
def rebaseOnto (gateway : Option Url) (link : Url) : Url :=
  match gateway with
  | none => link
  | some g => link.rebase g

end Fleet.Url
