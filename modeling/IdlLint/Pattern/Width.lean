import IdlLint.Pattern.Regex

/-! The numbers of characters that an expression can take. Only an expression with one such number
can be looked for before a place. -/
namespace IdlLint.Pattern

/-- The least and the greatest number of characters. -/
structure Width where
  least : Nat
  most : Nat
deriving DecidableEq, Repr, Inhabited

namespace Width

/-- The greatest width, which also stands for all greater ones. -/
def limit : Nat := Nat.pow 2 64

/-- The greatest width of a look-behind. -/
def reach : Nat := 0xffffffff

def clamped (w : Width) : Width :=
  ⟨min w.least limit, min w.most limit⟩

def zero : Width := ⟨0, 0⟩

def add (a b : Width) : Width :=
  clamped ⟨a.least + b.least, a.most + b.most⟩

/-- The widths of either. -/
def join (a b : Width) : Width :=
  ⟨min a.least b.least, max a.most b.most⟩

def times (w : Width) (least : Nat) (most : Option Nat) : Width :=
  clamped ⟨w.least * least, w.most * most.getD limit⟩

end Width

/-- The widths of the groups that are closed. -/
abbrev GroupWidths := List (Nat × Width)

namespace GroupWidths

def get? (groups : GroupWidths) (index : Nat) : Option Width :=
  (groups.find? fun entry => entry.1 == index).map Prod.snd

end GroupWidths

mutual

def Regex.width (groups : GroupWidths) : Regex → Width
  | .code _ _ _ | .any _ | .set _ _ _ => ⟨1, 1⟩
  | .boundary _ | .look _ _ _ => .zero
  | .reference index _ => (groups.get? index).getD .zero
  | .sequence items => sequenceWidth groups items
  | .choice items => choiceWidth groups items
  | .repetition item least most _ => (item.width groups).times least most
  | .capture _ item => item.width groups
  | .condition _ present absent => (present.width groups).join (absent.width groups)
  | .atomic item => item.width groups

def sequenceWidth (groups : GroupWidths) : List Regex → Width
  | [] => .zero
  | item :: rest => (item.width groups).add (sequenceWidth groups rest)

def choiceWidth (groups : GroupWidths) : List Regex → Width
  | [] => .zero
  | [item] => item.width groups
  | item :: rest => (item.width groups).join (choiceWidth groups rest)

end

/-- What is wrong with a look-behind for `item`. -/
def lookBehindFault? (w : Width) : Option PatternFault :=
  if Width.reach < w.least then some .farLookBehind
  else if w.least ≠ w.most then some .variableLookBehind
  else none

mutual

/-- The first part of an expression that cannot be carried out. A template has no repetitions. -/
def Regex.fault? (groups : GroupWidths) (template : Bool) : Regex → Option PatternFault
  | .code _ _ _ | .any _ | .set _ _ _ | .boundary _ | .reference _ _ => none
  | .sequence items => firstFault? groups template items
  | .choice items => firstFault? groups template items
  | .repetition item _ _ greed =>
    if template then some (.templateRepetition greed) else item.fault? groups template
  | .capture _ item => item.fault? groups template
  | .condition _ present absent =>
    (present.fault? groups template).or (absent.fault? groups template)
  | .look back _ item =>
    (if back.isSome then lookBehindFault? (item.width groups) else none).or
      (item.fault? groups template)
  | .atomic item => item.fault? groups template

def firstFault? (groups : GroupWidths) (template : Bool) : List Regex → Option PatternFault
  | [] => none
  | item :: rest => (item.fault? groups template).or (firstFault? groups template rest)

end

end IdlLint.Pattern
