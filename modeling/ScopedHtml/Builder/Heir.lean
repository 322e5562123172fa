import ScopedHtml.Builder.Scope

/-!
# ScopedHtml.Builder.Heir

Defining classes.

A new class is told to the classes behind it: the first of them that has a member for
it is called (`Hook.heir`). That of all builders lets the classes that stand behind it
in the line of the new class hear of it first, and then registers the openers of the
new class (`Caller.announce`). A class that nothing registers keeps no register: its
openers can be called but are not listed.

The name is bound when nobody has failed, so a class that could not be defined
changes nothing but what was done for it meanwhile.
-/

namespace ScopedHtml.Caller

variable {ρ : Type}

open BuildM

/-- Tells classes in a row of a class, up to the first that does not pass it on. The
end of the row takes no options. -/
def announce (call : Caller ρ) (id : ClassId) (options : Options) :
    List ClassId → BuildM ρ Value
  | [] => do
      unless options.isEmpty do
        let className ← observe fun store => (store.classes.get id).name
        throw (.noOptions (className ++ "." ++ Hook.heir.name))
      return .null
  | next :: rest => do
      match ← observe fun store => (store.classes.get next).members.find? Hook.heir.name with
      | none => call.announce id options rest
      | some (.opener target attachment) =>
          call.openScopeOn id Hook.heir.name target attachment none options
      | some .plain => return plainAnswer Hook.heir.name
      | some (.data held) => throw (.notCallable held.typeName)
      | some _ =>
          discard <| call.announce id options rest
          perform fun store => store.onClasses fun classes => classes.registered id
          return .null

/-- Defines a class on the bases of these names. -/
def define (call : Caller ρ) (name : String) (bases : List String) (body : ClassBody) :
    BuildM ρ ClassId := do
  let baseIds ← query fun store => store.classes.namedAll bases
  let new ← query fun store => store.classes.draft name baseIds body
  let id ← transact fun store => .ok (store.addClass new)
  discard <| call.announce id [] new.ancestors
  if ← observe fun store => store.classes.isBuilder id then
    settle =<< observe fun store => store.classes.checkAbstract baseIds
  perform fun store => store.onClasses fun classes => .ok (classes.bindName name id)
  return id

end ScopedHtml.Caller
