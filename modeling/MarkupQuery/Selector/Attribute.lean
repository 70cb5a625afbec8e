import MarkupQuery.Text.Blank
import MarkupQuery.Text.Quoted

/-! Tests on the value of an attribute: a comparison with a literal, the bare demand for a
non-empty value, and a set of class names. A value that is absent passes none of them. -/

namespace MarkupQuery

/-- Whether the first text stands somewhere in the second. -/
def isInside (literal : List Char) : List Char → Bool
  | [] => literal == []
  | c :: cs => literal.isPrefixOf (c :: cs) || isInside literal cs

theorem isInside_iff {literal value : List Char} : isInside literal value ↔ literal <:+: value := by
  induction value with
  | nil => simp [isInside]
  | cons c cs ih => simp [isInside, ih, List.infix_cons_iff]

inductive Comparison where
  | equals
  | includes
  | startsWith
  | endsWith
  | contains
  /-- The literal itself, or the literal, a hyphen and one more part. -/
  | dashMatch
deriving DecidableEq, Inhabited

namespace Comparison

def ofSymbol? : Char → Option Comparison
  | '=' => some .equals
  | '~' => some .includes
  | '^' => some .startsWith
  | '$' => some .endsWith
  | '*' => some .contains
  | '|' => some .dashMatch
  | _ => none

def symbol : Comparison → Char
  | .equals => '='
  | .includes => '~'
  | .startsWith => '^'
  | .endsWith => '$'
  | .contains => '*'
  | .dashMatch => '|'

theorem ofSymbol?_symbol (op : Comparison) : ofSymbol? op.symbol = some op := by
  cases op <;> rfl

theorem symbol_of_ofSymbol? {c : Char} {op : Comparison} (h : ofSymbol? c = some op) :
    op.symbol = c := by
  unfold ofSymbol? at h
  split at h <;> simp at h <;> subst h <;> rfl

/-- Whether a value passes. Only equality accepts the empty value, and no value ends in nothing. -/
def accepts (op : Comparison) (literal value : List Char) : Bool :=
  match op with
  | .equals => value == literal
  | .includes => value != [] && (words value).contains literal
  | .startsWith => value != [] && literal.isPrefixOf value
  | .endsWith => value != [] && literal != [] && literal.isSuffixOf value
  | .contains => value != [] && isInside literal value
  | .dashMatch =>
    value != [] &&
      (value == literal ||
        ((literal ++ ['-']).isPrefixOf value && !(value.drop (literal.length + 1)).contains '-'))

end Comparison

/-- A comparison with a literal, or none: then the value only has to be there and not be empty. -/
structure AttributeTest where
  comparison? : Option Comparison := none
  literal : String := ""
deriving DecidableEq, Inhabited

namespace AttributeTest

def present : AttributeTest := {}

def compare (op : Comparison) (literal : String) : AttributeTest := ⟨some op, literal⟩

@[simp] theorem literal_present : present.literal = "" := rfl

@[simp] theorem comparison?_compare (op : Comparison) (literal : String) :
    (compare op literal).comparison? = some op := rfl

@[simp] theorem literal_compare (op : Comparison) (literal : String) :
    (compare op literal).literal = literal := rfl

def accepts (test : AttributeTest) : Option String → Bool
  | none => false
  | some value =>
    match test.comparison? with
    | none => value != ""
    | some op => op.accepts test.literal.toList value.toList

@[simp] theorem accepts_none (test : AttributeTest) : test.accepts none = false := rfl

@[simp] theorem accepts_present_some (value : String) :
    present.accepts (some value) = (value != "") := rfl

@[simp] theorem accepts_compare_some (op : Comparison) (literal value : String) :
    (compare op literal).accepts (some value) = op.accepts literal.toList value.toList := rfl

/-- The test as it stands in a clause after the attribute's name. -/
def display (test : AttributeTest) : String :=
  match test.comparison? with
  | none => ""
  | some .equals => "=" ++ quoted test.literal
  | some op => String.ofList [op.symbol, '='] ++ quoted test.literal

end AttributeTest

/-- Whether a `class` attribute holds every one of the classes. -/
def hasClasses (classes : List String) : Option String → Bool
  | none => false
  | some value =>
    value != "" &&
      let present := words value.toList
      classes.all fun c => present.contains c.toList

end MarkupQuery
