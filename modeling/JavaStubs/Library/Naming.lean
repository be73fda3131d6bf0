import JavaStubs.Source.Suffix
import JavaStubs.Text.UpperCase

/-! Global variables: how scripts become classes, and the text of the generated files. -/

namespace JavaStubs.Library

def package : String := "globalvars"

def registryClass : String := "GlobalVars"

/-- The name of the registry's file without its suffix. -/
def registryStem : String := "Vars"

def classStart : String := "Var"

def variableName (baseName : String) (m : SuffixMapping := SuffixMapping.groovyToJava) : String :=
  m.stem baseName

def className (name : String) : String :=
  classStart ++ Text.upper name

/-- A line of a class body. Lines that document the variable start with `#` and become comments. -/
def bodyLine (line : List Char) : List Char :=
  if line.head? = some '#' then '/' :: '/' :: ' ' :: line else line

def wrapperChars (className : List Char) (lines : List (List Char)) : List Char :=
  ("package " ++ package ++ "\n\nclass ").toList ++ className ++ " \x7b\n".toList ++
    lines.flatMap (fun line => line ++ ['\n']) ++ "\n\x7d\n".toList

def wrapperText (className : String) (lines : List String) : String :=
  String.ofList (wrapperChars className.toList (lines.map String.toList))

def registryEntry (name className : String) : List String :=
  ["/** Global variable " ++ name ++ " */", package ++ "." ++ className ++ " " ++ name]

def registryLines (entries : List (String × String)) : List String :=
  ("class " ++ registryClass ++ " \x7b") :: entries.flatMap (fun (v, c) => registryEntry v c) ++ ["\x7d"]

def registryText (entries : List (String × String)) : String :=
  String.join ((registryLines entries).map (· ++ "\n"))

end JavaStubs.Library
