import ClipExchange.Command.Files
import ClipExchange.Text.Quoted

/-!
# Items of a transaction on the command line

An item is a format and a value with an equals sign between them. The value is the payload as
it stands, or an at sign and the path of a file that holds it. A file list that stands for
itself has colons between its paths.

## Main definitions

* `Content.ofItem`: the representation of an item.
-/

namespace ClipExchange

/-- The paths between colons, empty ones left out. -/
def Content.pathsOfColons (value : String) : List String :=
  (Text.parts ':' value).filter fun path => !path.isEmpty

/-- The representation with the given format and payload. -/
def Content.ofPayload (format : Format) (data : Bytes) : Except Failure Content :=
  match Content.ofBytes? format data with
  | some content => .ok content
  | none => .error (.plain ("value for " ++ format.name ++ " is not valid"))

/-- The representation of a format and a value. -/
def Content.ofValue (files : Files) (format : Format) (value : String) : Except Failure Content :=
  match value.toList with
  | '@' :: path =>
    let path := String.ofList path
    match files.read path with
    | .ok data => ofPayload format data
    | .error cause => .error (.ofStream ("reading " ++ path) cause)
  | _ =>
    if format = .fileList then .ok (.fileList (pathsOfColons value))
    else ofPayload format (Utf8.encode value)

/-- The representation of an item. -/
def Content.ofItem (files : Files) (item : String) : Except Failure Content :=
  match Text.cutAt? '=' item with
  | none => .error (.plain ("item " ++ Text.quoted item ++ " is not FORMAT=VALUE"))
  | some (format, value) => ofValue files (Format.ofText format) value

end ClipExchange
