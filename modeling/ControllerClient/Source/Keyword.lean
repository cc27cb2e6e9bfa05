import ControllerClient.Text.Identifier

/-!
The reserved words of the source language, and which texts are names.
-/

namespace ControllerClient.Source

inductive Keyword where
  | falseWord | noneWord | trueWord | andWord | asWord | assertWord | asyncWord | awaitWord
  | breakWord | classWord | continueWord | defWord | delWord | elifWord | elseWord | exceptWord
  | finallyWord | forWord | fromWord | globalWord | ifWord | importWord | inWord | isWord
  | lambdaWord | nonlocalWord | notWord | orWord | passWord | raiseWord | returnWord | tryWord
  | whileWord | withWord | yieldWord
deriving DecidableEq, Repr

namespace Keyword

def table : List (Keyword × Text) :=
  [(falseWord, "False"), (noneWord, "None"), (trueWord, "True"), (andWord, "and"),
    (asWord, "as"), (assertWord, "assert"), (asyncWord, "async"), (awaitWord, "await"),
    (breakWord, "break"), (classWord, "class"), (continueWord, "continue"), (defWord, "def"),
    (delWord, "del"), (elifWord, "elif"), (elseWord, "else"), (exceptWord, "except"),
    (finallyWord, "finally"), (forWord, "for"), (fromWord, "from"), (globalWord, "global"),
    (ifWord, "if"), (importWord, "import"), (inWord, "in"), (isWord, "is"),
    (lambdaWord, "lambda"), (nonlocalWord, "nonlocal"), (notWord, "not"), (orWord, "or"),
    (passWord, "pass"), (raiseWord, "raise"), (returnWord, "return"), (tryWord, "try"),
    (whileWord, "while"), (withWord, "with"), (yieldWord, "yield")].map
    fun (keyword, spelling) => (keyword, spelling.toList)

def ofText? (text : Text) : Option Keyword :=
  (table.find? fun entry => entry.2 == text).map (·.1)

end Keyword

def isKeyword (word : Text) : Bool := (Keyword.ofText? word).isSome

/-- Whether a text can be written as a name. -/
def isName (text : Text) : Bool := Text.isIdentifier text && !isKeyword text

end ControllerClient.Source
