import NewsWire.Article.Extract
import NewsWire.Poll.Fetch

/-!
# Resolving items

The items of a page are resolved by strands that are under way together, one for each item. The
strand of an item fetches its document once; where the item has none in the format of the wire, its
strand tells so and is done. When all strands are done, what they came to is gone through in the
order of the page: an item with a document is resolved, an item without one is dropped, and an item
whose document could not be fetched is dropped, or makes the poll fail, as the configuration says.

A failure does not stop the other strands: under either policy every document is fetched before
anything is decided. So which failure a poll ends with depends on the order of the page and not on
which document came back first.
-/

namespace NewsWire.Poll

open NewsWire.Feed NewsWire.Http

/-- An item with its document and the content of the document. -/
structure ResolvedItem where
  item : Item
  document : String
  content : Article.Content
  deriving DecidableEq, Repr

/-- The resolved items, and the number of items that were dropped. -/
structure Resolution where
  items : List ResolvedItem
  dropped : Nat
  deriving DecidableEq, Repr

/-- The revision under which the failure of an item is reported. -/
def reportedRevision (item : Item) : String := item.revision.getD "-"

def ResolvedItem.of (item : Item) (document : String) : ResolvedItem :=
  ⟨item, document, Article.extract document⟩

/-- What the strand of an item comes to: the item with its document, nothing when there is none to
fetch, or why it could not be fetched. -/
abbrev Resolved := Except Failure (Option ResolvedItem)

/-- The item with what became of its document. -/
def Resolved.of (item : Item) : Except TransportFault String → Resolved
  | .ok document => .ok (some (.of item document))
  | .error fault => .error (.itemFetch (reportedRevision item) fault)

def resolve (c : Config) (item : Item) : Strand Resolved :=
  match item.rendition? c.source.renditionFormat with
  | none => .tell (.itemDropped item.revision .missingRendition) (.done (.ok none))
  | some href => (textStrand c href).bind fun document ↦ .done (.of item document)

/-- Go through what the strands of the items came to. -/
def settle (policy : ItemFailure) (found : Resolution) : List Resolved → Attempt Resolution
  | [] => Attempt.ofExcept (.ok found)
  | .ok (some item) :: rest => settle policy { found with items := found.items ++ [item] } rest
  | .ok none :: rest => settle policy { found with dropped := found.dropped + 1 } rest
  | .error (.itemFetch revision fault) :: rest =>
    match policy with
    | .propagate => Attempt.fail (.itemFetch revision fault)
    | .drop => do
      Attempt.lift (.telling (.itemDropped (some revision) (.contentFetchFailed fault)))
      settle policy { found with dropped := found.dropped + 1 } rest
  | .error e :: _ => Attempt.fail e

def resolveAll (c : Config) (items : List Item) : Attempt Resolution := do
  let found ← Attempt.lift (.joining (items.map (resolve c)))
  settle c.itemFailure ⟨[], 0⟩ found

end NewsWire.Poll
