import ClipExchange.Message
import ClipExchange.Text.Quoted

/-!
# What commands print

## Main definitions

* `Content.describe`: one representation in a line.
* `Message.lines`: a message and what it carries.
* `Message.selectionLine?`: the representation that a consumer would take.
-/

namespace ClipExchange

/-- The number of characters of a text that are shown. -/
def Content.previewLength : Nat := 60

/-- The beginning of a text, with a mark if that is not all. -/
def Content.preview (s : String) : String :=
  let cs := s.toList
  let front := cs.take previewLength
  String.ofList (if previewLength < cs.length then front ++ ['…'] else front)

/-- What is shown of a payload. -/
def Content.detail (content : Content) : String :=
  match content with
  | .fileList paths => String.intercalate ":" paths
  | .text s | .html s | .richText s => Text.quoted (preview s)
  | .png _ | .bitmap _ | .other _ _ => toString content.size ++ " bytes"

/-- One representation in a line: its tag and what is shown of it. -/
def Content.describe (content : Content) : String :=
  content.format.name ++ " " ++ content.detail

/-- Several tags in a line. -/
def Format.joined (formats : List Format) : String :=
  String.intercalate ", " (formats.map Format.name)

/-- The lines of some representations, each with its number. -/
def Content.numbered (contents : List Content) : List String :=
  contents.zipIdx.map fun (content, i) => "  [" ++ toString i ++ "] " ++ content.describe

/-- A message and what it carries, in lines. -/
def Message.lines : Message → List String
  | .offer id formats sizeHint =>
    ["offer " ++ id.text ++ " (" ++ toString sizeHint.toNat ++ " bytes): " ++
      Format.joined formats]
  | .request id formats => ["request " ++ id.text ++ ": " ++ Format.joined formats]
  | .data id contents =>
    ("transaction " ++ id.text ++ " (" ++ toString contents.length ++ " items)") ::
      Content.numbered contents
  | .empty id => ["transaction " ++ id.text ++ " (0 items)"]

/-- The representation that a consumer of the given formats would take from an answer, in a
line. Offers and requests carry none. -/
def Message.selectionLine? (accept : List Format) (message : Message) : Option String :=
  match message.toTransaction with
  | .error _ => none
  | .ok tx =>
    match (tx.select accept).1 with
    | some content => some (tx.id.text ++ ": " ++ content.describe)
    | none => some (tx.id.text ++ ": no acceptable representation")

end ClipExchange
