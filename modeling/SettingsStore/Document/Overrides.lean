import SettingsStore.Document.Decode
import SettingsStore.Document.Validity

/-!
# Environment overrides

A variable named after a setting overrides it in the document in use. The document that is kept does
not have these values: `restore` gives overridden settings the values that they have there. An
override that does not fit its setting is a violation, and then no override is applied. Variables
are tried one after the other, each on the value of the document that has the overrides before it.
Removing overrides goes through the value as well, and is irreducible as masking is.
-/

namespace SettingsStore

/-- Environment variables; the first value of a name counts. -/
abbrev Environment := List (String × String)

namespace Environment

def find? (env : Environment) (name : String) : Option String := env.lookup name

/-- Of several values of a name, the last. -/
def ofPairs (vars : List (String × String)) : Environment := vars.reverse

end Environment

namespace Leaf

def variableName (l : Leaf) (lead : String) : String := l.field.variableName lead

/-- The value of a document with what a variable's text gives a leaf, if it is still a document. -/
def tryVariable (l : Leaf) (raw : String) (doc : Json) : Except String Json := do
  let value ← l.field.parseVariable raw
  let doc := l.field.write value doc
  match Document.ofJson doc with
  | .ok _ => return doc
  | .error fault => throw fault.message

/-- The value of a document with what another one has of a leaf. -/
def copy (source doc : Json) (l : Leaf) : Json :=
  match l.field.find? source with
  | some original => l.field.write original doc
  | none => doc

end Leaf

/-- The leaves whose variables are present, in order. -/
def Environment.overridden (env : Environment) (lead : String) : List Leaf :=
  Leaf.all.filter fun l => (env.find? (l.variableName lead)).isSome

/-- How far the variables have been tried: the value of the document with the overrides so far, the
leaves that they override, and what is wrong with other variables. -/
structure Overriding where
  doc : Json
  overridden : List Leaf
  violations : List Violation

/-- Tries the variable of a leaf, if there is one. -/
def Overriding.visit (env : Environment) (lead : String) (o : Overriding) (l : Leaf) :
    Overriding :=
  match env.find? (l.variableName lead) with
  | none => o
  | some raw => match l.tryVariable raw o.doc with
    | .ok doc => { o with doc, overridden := o.overridden ++ [l] }
    | .error cause => { o with
        violations := o.violations ++ [⟨some l, .variable (l.variableName lead) cause⟩] }

namespace Document

/-- Reads a value that was made of a document. -/
def ofValue (doc : Json) : Except (List Violation) Document :=
  (ofJson doc).mapError fun fault => [⟨none, .unreadable fault⟩]

/-- The document with the values of the environment and the leaves that have them, or all that is
wrong with the environment. -/
def applyOverrides (env : Environment) (lead : String) (d : Document) :
    Except (List Violation) (Document × List Leaf) :=
  if env.isEmpty then .ok (d, [])
  else
    let tried := Leaf.all.foldl (Overriding.visit env lead) ⟨d.toJson, [], []⟩
    if !tried.violations.isEmpty then .error tried.violations
    else if tried.overridden.isEmpty then .ok (d, [])
    else (ofValue tried.doc).map (·, tried.overridden)

/-- The document with the values of the environment, or the violations of the environment. -/
def overrideWith (env : Environment) (lead : String) (d : Document) :
    Except (List Violation) Document :=
  (d.applyOverrides env lead).map Prod.fst

/-- The document with the values that another one has of overridden leaves. -/
@[irreducible]
def removeOverrides (d kept : Document) (overridden : List Leaf) :
    Except (List Violation) Document :=
  if overridden.isEmpty then .ok d
  else
    let leaves := Leaf.all.filter fun l => overridden.contains l
    ofValue (leaves.foldl (Leaf.copy kept.toJson) d.toJson)

/-- Takes away overrides, which always succeeds. -/
def restore (d kept : Document) (leaves : List Leaf) : Document :=
  match d.removeOverrides kept leaves with
  | .ok d' => d'
  | .error _ => d

end Document

end SettingsStore
