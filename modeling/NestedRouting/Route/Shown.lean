import NestedRouting.Data.Basic
import NestedRouting.Route.Context

/-!
# Contexts as data

Content can show the context that it was rendered in. The value has a field for each part of it; the
parts that are missing are null.
-/

namespace NestedRouting

/-- Parameters as an object. -/
def Params.toData (ps : Params) : Data :=
  .object (ps.entries.map fun p => (String.ofList p.1, .ofText p.2))

/-- A match with its matched text and remainder. -/
def Match.toData (m : Match) : Data :=
  .object [
    ("captures", .ofList (.ofOption .ofText) m.captures),
    ("index", .ofNat m.index),
    ("input", .ofText m.input),
    ("params", m.params.toData),
    ("consumed", .ofText m.consumed),
    ("matched", .ofText m.matched),
    ("remainder", .ofText m.remainder)]

/-- A failure with its wording. -/
def Failure.toData (f : Failure) : Data :=
  .object [
    ("route", .ofText f.route),
    ("message", .string f.message),
    ("causes", .ofList .string f.causes),
    ("panicked", .bool f.panicked),
    ("display", .string f.display)]

/-- A context. -/
def Context.toData (c : Context) : Data :=
  .object [
    ("path", .ofText c.path),
    ("params", c.params.toData),
    ("matches", .ofList Match.toData c.matched),
    ("error", .ofOption Failure.toData c.failure)]

end NestedRouting
