import ServicePlacement.Unicode.Age
import ServicePlacement.Unicode.Script
import ServicePlacement.Unicode.Segmentation

/-!
Sets of characters by the names of their properties. Names are compared loosely: letter case,
spaces, hyphens, underscores and a leading `is` make no difference.
-/
namespace ServicePlacement.Unicode

def looseName (name : List Char) : String :=
  let body := match name with
    | 'i' :: 's' :: rest | 'I' :: 's' :: rest | 'i' :: 'S' :: rest | 'I' :: 'S' :: rest => rest
    | _ => name
  let kept := body.filter fun c => c != ' ' && c != '_' && c != '-' && c.toNat < 0x80
  let loose := String.ofList (kept.map Char.toLower)
  -- the short name of a property that is not kept here, and not that of a category
  if loose == "c" && body.length < name.length then "isc" else loose

def named? (name : List Char) : Option CharSet :=
  let name := looseName name
  binary? name <|> category? name <|> script? name

def withValue? (name value : List Char) : Option CharSet :=
  let value := looseName value
  match looseName name with
  | "gc" | "generalcategory" => category? value
  | "sc" | "script" => script? value
  | "scx" | "scriptextensions" => scriptExtension? value
  | "age" => age? value
  | "gcb" | "graphemeclusterbreak" => characterBreak? value
  | "wb" | "wordbreak" => wordBreak? value
  | "sb" | "sentencebreak" => sentenceBreak? value
  | _ => none

def having (property : String) : CharSet := (binary? property).getD .empty

def alphabetic : CharSet := having "alphabetic"

def graphemeExtend : CharSet := having "graphemeextend"

def decimalDigits : CharSet := leafCategory "nd"

def alphanumeric : CharSet := alphabetic.union (categoryUnion ["nd", "nl", "no"])

def wordCharacters : CharSet :=
  .unions [alphabetic, categoryUnion ["mc", "me", "mn", "nd", "pc"], having "joincontrol"]

end ServicePlacement.Unicode
