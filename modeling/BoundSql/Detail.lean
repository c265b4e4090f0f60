import BoundSql.Text.Quoted

/-!
# Descriptions of structures

A structure is described by its name and its fields, or by its name and its parts.  A description is
written on one line, or over several with each level indented by four columns.

* **`Detail`** — the description.
* **`Detail.inline`** — on one line.
* **`Detail.pretty`** — over several lines.
-/

namespace BoundSql

/-- **A description of a structure.** -/
inductive Detail where
  /-- A text that stands for itself. -/
  | word (text : List Char)
  /-- A name and named fields. -/
  | fields (name : String) (parts : List (String × Detail))
  /-- A name, named fields, and the remark that there are more. -/
  | partly (name : String) (parts : List (String × Detail))
  /-- A name and parts without names. -/
  | tuple (name : String) (parts : List Detail)
  /-- A name, and after a blank what it names. -/
  | labelled (name : String) (whole : Detail)
  /-- Parts of a list. -/
  | list (parts : List Detail)
  /-- Named parts, the names being texts in quotes. -/
  | map (parts : List (String × Detail))
  deriving Inhabited

namespace Detail

/-- A text in quotes. -/
def quoted (s : String) : Detail := .word (Text.quoted s.toList)

/-- A plain name. -/
def name (s : String) : Detail := .word s.toList

/-- What may be missing. -/
def option : Option Detail → Detail
  | none => name "None"
  | some d => .tuple "Some" [d]

/-- Texts with a separator between them. -/
def joined (separator : List Char) : List (List Char) → List Char
  | [] => []
  | [x] => x
  | x :: y :: rest => x ++ separator ++ joined separator (y :: rest)

mutual

/-- **A description on one line.** -/
def inline : Detail → List Char
  | .word text => text
  | .fields n parts =>
    match parts with
    | [] => n.toList
    | _ => n.toList ++ " \x7b ".toList ++ joined ", ".toList (inlineFields parts) ++ " \x7d".toList
  | .partly n parts =>
    match parts with
    | [] => n.toList ++ " \x7b .. \x7d".toList
    | _ =>
      n.toList ++ " \x7b ".toList ++ joined ", ".toList (inlineFields parts) ++ ", .. \x7d".toList
  | .tuple n parts => n.toList ++ '(' :: (joined ", ".toList (inlineParts parts) ++ [')'])
  | .labelled n whole => n.toList ++ ' ' :: inline whole
  | .list parts => '[' :: (joined ", ".toList (inlineParts parts) ++ [']'])
  | .map parts => '\x7b' :: (joined ", ".toList (inlineNamed parts) ++ ['\x7d'])

/-- The parts, each on one line. -/
def inlineParts : List Detail → List (List Char)
  | [] => []
  | d :: rest => inline d :: inlineParts rest

/-- The fields, each with its name and a colon. -/
def inlineFields : List (String × Detail) → List (List Char)
  | [] => []
  | (n, d) :: rest => (n.toList ++ ": ".toList ++ inline d) :: inlineFields rest

/-- The parts of a map, each with its name in quotes. -/
def inlineNamed : List (String × Detail) → List (List Char)
  | [] => []
  | (n, d) :: rest => (Text.quoted n.toList ++ ": ".toList ++ inline d) :: inlineNamed rest

end

/-- A line break and the indentation of a level. -/
def newline (level : Nat) : List Char := '\n' :: List.replicate (4 * level) ' '

mutual

/-- **A description over several lines**, inside the given number of levels. -/
def prettyAt (level : Nat) : Detail → List Char
  | .word text => text
  | .fields n parts =>
    match parts with
    | [] => n.toList
    | _ => n.toList ++ " \x7b".toList ++ prettyFields (level + 1) parts ++ newline level ++ ['\x7d']
  | .partly n parts =>
    match parts with
    | [] => n.toList ++ " \x7b .. \x7d".toList
    | _ =>
      n.toList ++ " \x7b".toList ++ prettyFields (level + 1) parts ++ newline (level + 1) ++
        "..".toList ++ newline level ++ ['\x7d']
  | .tuple n parts =>
    n.toList ++ '(' :: (prettyParts (level + 1) parts ++ newline level ++ [')'])
  | .labelled n whole => n.toList ++ ' ' :: prettyAt level whole
  | .list parts =>
    match parts with
    | [] => ['[', ']']
    | _ => '[' :: (prettyParts (level + 1) parts ++ newline level ++ [']'])
  | .map parts =>
    match parts with
    | [] => ['\x7b', '\x7d']
    | _ => '\x7b' :: (prettyNamed (level + 1) parts ++ newline level ++ ['\x7d'])

/-- The parts, each on a line of its own and followed by a comma. -/
def prettyParts (level : Nat) : List Detail → List Char
  | [] => []
  | d :: rest => newline level ++ prettyAt level d ++ ',' :: prettyParts level rest

/-- The fields, each on a line of its own. -/
def prettyFields (level : Nat) : List (String × Detail) → List Char
  | [] => []
  | (n, d) :: rest =>
    newline level ++ n.toList ++ ": ".toList ++ prettyAt level d ++ ',' :: prettyFields level rest

/-- The parts of a map, each on a line of its own. -/
def prettyNamed (level : Nat) : List (String × Detail) → List Char
  | [] => []
  | (n, d) :: rest =>
    newline level ++ Text.quoted n.toList ++ ": ".toList ++ prettyAt level d ++
      ',' :: prettyNamed level rest

end

/-- **A description over several lines.** -/
def pretty (d : Detail) : String := String.ofList (d.prettyAt 0)

/-- A description on one line, as a string. -/
def text (d : Detail) : String := String.ofList d.inline

end Detail

end BoundSql
