import RobotScript.Operator

/-!
# The vocabulary

The keywords of the language with what they are for, and the signs, for reading scripts and for
tools that show them.
-/

namespace RobotScript

/-- What a keyword is: a reserved word, a function, or the part after the point of an attack. -/
inductive Category where
  | reserved
  | function
  | suffix
deriving DecidableEq, Repr

/-- A keyword. -/
inductive Keyword where
  | print
  | input
  | goto
  | si
  | sinon
  | finsi
  | tantque
  | fintantque
  | pour
  | finpour
  | deplacer
  | attaquer
  | tirer
  | melee
  | recharger
  | detecterEnnemi
  | estVivant
deriving DecidableEq, Repr

/-- The name of a category in a listing. -/
def Category.name : Category → String
  | reserved => "Reserved"
  | function => "Function"
  | suffix => "Suffix"

namespace Keyword

/-- Every keyword, in the order in which a listing shows them. -/
def all : List Keyword :=
  [print, input, goto, si, sinon, finsi, tantque, fintantque, pour, finpour, deplacer,
    attaquer, tirer, melee, recharger, detecterEnnemi, estVivant]

/-- The keyword as it is written. -/
def name : Keyword → String
  | print => "print"
  | input => "input"
  | goto => "goto"
  | si => "si"
  | sinon => "sinon"
  | finsi => "finsi"
  | tantque => "tantque"
  | fintantque => "fintantque"
  | pour => "pour"
  | finpour => "finpour"
  | deplacer => "deplacer"
  | attaquer => "attaquer"
  | tirer => "tirer"
  | melee => "melee"
  | recharger => "recharger"
  | detecterEnnemi => "detecterEnnemi"
  | estVivant => "estVivant"

/-- What a keyword is. -/
def category : Keyword → Category
  | print | input | goto | si | sinon | finsi | tantque | fintantque | pour | finpour => .reserved
  | tirer | melee => .suffix
  | deplacer | attaquer | recharger | detecterEnnemi | estVivant => .function

/-- What a keyword is for. -/
def description : Keyword → String
  | print => "print an expression"
  | input => "read a line into a variable"
  | goto => "jump to a label"
  | si => "start a conditional block"
  | sinon => "start the alternative branch of a si"
  | finsi => "close a si block"
  | tantque => "start a loop tested before each pass"
  | fintantque => "close a tantque block"
  | pour => "start a counted loop: pour (init ; condition ; step)"
  | finpour => "close a pour block"
  | deplacer => "move one tile in a direction"
  | attaquer => "attack, followed by .tirer or .melee"
  | tirer => "ranged attack along a diagonal"
  | melee => "close attack on the adjacent tile"
  | recharger => "wait a turn and refill ammunition"
  | detecterEnnemi => "direction of the enemy in sight"
  | estVivant => "1 while the enemy is alive, 0 after"

/-- The keyword that a word is. -/
def ofName? (word : String) : Option Keyword :=
  all.find? fun keyword => keyword.name == word

/-- A keyword is found by its name. -/
@[simp] theorem ofName?_name (keyword : Keyword) : ofName? keyword.name = some keyword := by
  cases keyword <;> decide

end Keyword

/-- A word with a meaning of its own: a keyword or a direction. -/
def isKeyword (word : String) : Bool :=
  (Keyword.ofName? word).isSome || (Direction.ofKeyword? word).isSome

/-- The sign that starts a comment. -/
def commentMark : Char := '#'

end RobotScript
