import SourceEditor.Text.Basic

/-!
# Categories

The categories that characters of a source text are shown in. Two of them are overlays, which lie
over the lexical ones without hiding them.
-/

namespace SourceEditor

/-- A category of characters. -/
inductive Category
  /-- Text without a class. -/
  | plain
  /-- A keyword of the language. -/
  | keyword
  /-- A name of a type. -/
  | type
  /-- A string literal. -/
  | string
  /-- A comment. -/
  | comment
  /-- A number. -/
  | number
  /-- A match of the search. -/
  | searchMatch
  /-- A line with a compile error. -/
  | errorLine
  deriving DecidableEq, Repr

namespace Category

/-- Every category. -/
def all : List Category :=
  [.plain, .keyword, .type, .string, .comment, .number, .searchMatch, .errorLine]

/-- The name of a category. -/
def name : Category → Text
  | .plain => "plain"
  | .keyword => "keyword"
  | .type => "type"
  | .string => "string"
  | .comment => "comment"
  | .number => "number"
  | .searchMatch => "search_match"
  | .errorLine => "error_line"

/-- The category of a name. -/
def ofName? (n : Text) : Option Category :=
  all.find? fun c => c.name = n

/-- Whether a category lies over the lexical ones. -/
def isOverlay : Category → Bool
  | .searchMatch | .errorLine => true
  | _ => false

end Category

/-- The lexical category painted last, which is the one that shows where only one can. -/
def topLexical (categories : List Category) : Category :=
  categories.foldl (fun top c => if c.isOverlay then top else c) .plain

end SourceEditor
