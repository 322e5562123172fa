import ScopedHtml.Proofs.Continuing
import ScopedHtml.Proofs.Outcome
import ScopedHtml.Proofs.ScriptChronicle

/-!
# ScopedHtml.Proofs.Supported

**What a builder says that it supports.** A class that finds and lists elements as the library does
lists the names in its register. So does what a builder of the class is told when it is asked for a
name that is not there (`Caller.read_of_unknown`). Reading a public name of the builder yields an
opener exactly if the first class in its line that has something under the name has an opener, and
no attribute of the builder hides it (`BuildM.readsOpener_iff`).

Registers are about the classes whose registers they continue (`ClassTable.Complete.mem_register`),
look-up is about all classes in the line. `BuildM.Supports` puts the two together, after every script
(`Script.supported_are_openers`): the list and the openers differ by attributes that hide openers,
by plain functions that replace them and by openers of plain classes, and by nothing else if the
builder classes of the line stand in single file.
-/

namespace ScopedHtml

open BuildM

variable {ρ : Type}

/-! ### Reading -/

/-- Reading a name of a builder yields the scoped opener of the name. -/
def BuildM.ReadsOpener (s : Session ρ) (b : BuilderRef) (name : String) : Prop :=
  ∃ owner target attachment,
    b.read name s = .ok (.callable owner name (.opener target attachment)) s

section

variable {s : Session ρ} {b : BuilderRef} {name : String} {names : List String}

namespace Caller

/-- A builder asked for its elements answers with the names in the register of its class. -/
theorem own_elements (depth : Nat) (hook : s.store.hook? b .read = none)
    (lists : ∃ owner, s.store.member? b "elements" = some (owner, .method .elements))
    (free : s.store.held? b "elements" = none)
    (listed : s.store.classes.listed (s.store.get b).classId = .ok names) :
    (upTo (depth + 1)).own b "elements" s = .ok (.ofNames names) s := by
  obtain ⟨owner, member⟩ := lists
  have ordinary := Store.property?_of_member member (by simp)
  rw [own, bind_of_ok (read_of_unhooked hook ordinary (Store.kept?_of_member free member))]
  show upTo (depth + 1) b (.callable _ "elements" (.method .elements)) {} s = _
  rw [upTo_method depth s b _ _ .elements (by decide)]
  refine (bind_of_ok rfl).trans ?_
  show (query _ >>= _) s = _
  rw [bind_of_ok (query_eq_ok.2 ⟨listed, rfl⟩)]
  rfl

/-- Reading a public name that is not there is reported with the names in the register. -/
theorem read_of_unknown (depth : Nat) (plain : s.store.ReadsPlainly b)
    (free : s.store.held? b "elements" = none)
    (listed : s.store.classes.listed (s.store.get b).classId = .ok names)
    (shown : isPrivate name = false) (absent : s.store.kept? b name = none) :
    (upTo (depth + 2)).read b name s = .error (.noElement (s.store.className b) name names) s := by
  have unmade : s.store.member? b name = none := by
    cases member : s.store.member? b name with
    | none => rfl
    | some origin =>
        rcases Store.kept?_cases member with ⟨value, kept⟩ | kept <;> cases absent.symm.trans kept
  refine read_of_reported (depth + 1) plain (Store.property?_of_not_member unmade) absent ?_
  unfold report
  rw [observe_bind, if_neg (by rw [shown]; decide)]
  refine (bind_of_ok (own_elements depth plain.read plain.elements free listed)).trans ?_
  have texts : (Value.texts names).map Value.written = names := by
    simp [Value.texts, Function.comp_def]
  rw [Value.items?_ofNames]
  dsimp only
  rw [texts]
  rfl

end Caller

/-- A public name is read as an opener if the class has one under it and nothing hides that. -/
theorem BuildM.readsOpener_iff (hook : s.store.hook? b .read = none)
    (shown : isPrivate name = false) :
    ReadsOpener s b name ↔ s.store.held? b name = none ∧ ∃ owner target attachment,
      s.store.member? b name = some (owner, .opener target attachment) := by
  constructor
  · rintro ⟨owner, target, attachment, read⟩
    rcases Caller.kept?_of_callable hook read with kept | kept
    · cases held : s.store.held? b name with
      | some value => cases (Store.kept?_of_held held).symm.trans kept
      | none =>
          refine ⟨rfl, ?_⟩
          cases member : s.store.member? b name with
          | none =>
              unfold Store.kept? at kept
              rw [held, member, Store.inherent?_of_public shown] at kept
              cases kept
          | some origin =>
              obtain ⟨id, called⟩ := origin
              have found := (Store.kept?_of_member held member).symm.trans kept
              cases called with
              | opener other otherAttachment => exact ⟨id, other, otherAttachment, rfl⟩
              | _ => cases found
    · -- What stands in the place of a computed attribute has its name, which is private.
      cases Store.name_of_kept? kept
      cases shown
  · rintro ⟨held, owner, target, attachment, member⟩
    exact ⟨(s.store.classes.get owner).name, target, attachment,
      Caller.read_of_unhooked hook (Store.property?_of_member member (by simp))
        (Store.kept?_of_member held member)⟩

end

/-! ### What is listed and what opens -/

/-- A class that finds attributes, lists elements and hears of new classes as the library's do. -/
structure ClassTable.ListsPlainly (table : ClassTable) (id : ClassId) : Prop where
  read : table.hook? id .read = none
  elements : ∃ owner, table.resolve id "elements" = some (owner, .method .elements)
  heard : table.Heard id

/-- These names are what a builder says that it supports, and what it does support. -/
structure BuildM.Supports (s : Session ρ) (b : BuilderRef) (names : List String) : Prop where
  /-- The class lists the names. -/
  listing : s.store.classes.listing (s.store.get b).classId = .ok (.ofNames names)
  /-- So does the builder, if it has no attribute of its own in the place of what lists them. -/
  elements : s.store.held? b "elements" = none → b.callOwn "elements" s = .ok (.ofNames names) s
  /-- If then the library reports what is not there, it reports these names. -/
  unknown : s.store.held? b "elements" = none →
    (∃ owner, s.store.hook? b .unknown = some (owner, .method .report)) →
      ∀ name, isPrivate name = false → s.store.kept? b name = none →
        b.read name s = .error (.noElement (s.store.className b) name names) s
  /-- Listed are the public openers of the classes whose registers the class continues. -/
  listed : ∀ name, name ∈ names ↔ isPrivate name = false ∧ ∃ owner,
    s.store.classes.Continues (s.store.get b).classId owner ∧ s.store.classes.Opens owner name
  /-- A public name is read as an opener if the first class with something under it has an opener
  and the builder has no attribute of its own there. -/
  opens : ∀ name, isPrivate name = false →
    (ReadsOpener s b name ↔ s.store.held? b name = none ∧ ∃ owner target attachment,
      s.store.member? b name = some (owner, .opener target attachment))
  /-- In single file, whatever is listed is read as an opener, if neither an attribute hides it nor
  a plain function replaces it. -/
  opens_listed : s.store.classes.SingleFile (s.store.get b).classId → ∀ name ∈ names,
    s.store.held? b name = none → (∀ owner, s.store.member? b name ≠ some (owner, .plain)) →
      ReadsOpener s b name
  /-- In single file, whatever is read as an opener is listed, if it is one of a builder class. -/
  lists_opener : s.store.classes.SingleFile (s.store.get b).classId → ∀ name,
    isPrivate name = false → ReadsOpener s b name →
      (∀ owner member, s.store.member? b name = some (owner, member) →
        s.store.classes.isBuilder owner = true) → name ∈ names

/-- Builders of classes that list elements as the library does support what they list. -/
theorem BuildM.supports {s : Session ρ} {b : BuilderRef} (regular : s.store.Regular)
    (complete : s.store.classes.Complete)
    (plain : s.store.classes.ListsPlainly (s.store.get b).classId) :
    ∃ names, Supports s b names := by
  have usable := regular.builders b
  obtain ⟨names, register⟩ := complete.registered_of_heard usable plain.heard
  have listed : s.store.classes.listed (s.store.get b).classId = .ok names :=
    ClassTable.listed_of_own register
  refine ⟨names, ?_⟩
  constructor
  case listing =>
    obtain ⟨owner, elements⟩ := plain.elements
    unfold ClassTable.listing
    rw [elements]
    dsimp only
    rw [listed]
    rfl
  case elements => exact fun free => Caller.own_elements 999 plain.read plain.elements free listed
  case unknown =>
    exact fun free reports name shown absent =>
      Caller.read_of_unknown 998 ⟨plain.read, reports, plain.elements⟩ free listed shown absent
  case listed => exact fun name => complete.mem_register register
  case opens => exact fun name shown => readsOpener_iff plain.read shown
  case opens_listed =>
    intro single name among free unreplaced
    have shown := ((complete.mem_register register).1 among).1
    exact (readsOpener_iff plain.read shown).2
      ⟨free, complete.opens_of_listed usable single register among unreplaced⟩
  case lists_opener =>
    intro single name shown reads builder
    obtain ⟨_, owner, target, attachment, found⟩ := (readsOpener_iff plain.read shown).1 reads
    exact complete.listed_of_opens usable plain.heard single register shown found
      (builder _ _ found)

namespace Script

/-- After a script the classes and builders are regular, lines are nested and only builder classes
have registers. -/
theorem complete_runTop (steps : List Step) (position : Nat) :
    (left (runTop position steps) start).store.Regular ∧
      (left (runTop position steps) start).store.classes.Complete := by
  have told : Chronicle False start.store (topTold position steps start) _ :=
    chronicles_runTop steps False.elim position start Store.Regular.initial
  have regular := told.shifts.regular Store.Regular.initial
  have nested := nested_runTop steps position
  exact ⟨regular, { regular.classes, nested with
    builders := told.shifts.builders Store.Regular.initial ClassTable.builders_standard }⟩

/-- **What a builder says that it supports is what it opens**, after every script and for every
builder of a class that lists elements as the library does. -/
theorem supported_are_openers (steps : List Step) (b : BuilderRef) :
    let s := left (runTop 0 steps) start
    s.store.classes.ListsPlainly (s.store.get b).classId → ∃ names, Supports s b names := by
  intro s plain
  obtain ⟨regular, complete⟩ := complete_runTop steps 0
  exact BuildM.supports regular complete plain

/-- What defines a plain class and a class of pages, and makes a builder of a page. -/
def pageSteps (plain : ClassBody) (bases : List String) (body : ClassBody) : List Step :=
  [.defineMixin "Noted" plain, .define "Page" bases body, .new "b" "Page" []]

/-- What is left of that. -/
def pageOf (plain : ClassBody) (bases : List String) (body : ClassBody) : Session Names :=
  left (runTop 0 (pageSteps plain bases body)) start

/-- An opener of divisions. -/
def opening (name : String) : ClassBody where
  openers := [⟨name, "DivBuilder", false, .append⟩]

/-- A page with an opener, which has another from a plain class. -/
def notedPage : Session Names := pageOf (opening "note") ["Noted", "BodyBuilder"] (opening "part")

/-- Its opener and that of bodies are listed and open, and a name that is not there is reported with
these two. The opener of the plain class opens as well. -/
theorem supported_are_openers_noted : ∃ names, Supports notedPage ⟨0⟩ names ∧
    names = ["div", "part"] ∧ (∀ name ∈ names, ReadsOpener notedPage ⟨0⟩ name) ∧
      BuilderRef.read ⟨0⟩ "image" notedPage = .error (.noElement "Page" "image" names) notedPage ∧
      ReadsOpener notedPage ⟨0⟩ "note" := by
  obtain ⟨names, supports⟩ : ∃ names, Supports notedPage ⟨0⟩ names :=
    supported_are_openers (pageSteps (opening "note") ["Noted", "BodyBuilder"] (opening "part")) ⟨0⟩
      ⟨rfl, ⟨_, rfl⟩, .inl ⟨_, rfl⟩⟩
  have listing : notedPage.store.classes.listing ⟨8⟩ = .ok (.ofNames ["div", "part"]) := rfl
  have texts := Value.tuple.inj (Except.ok.inj (supports.listing.symm.trans listing))
  obtain rfl : names = ["div", "part"] :=
    List.map_injective_iff.2 (fun _ _ same => Value.text.inj same) texts
  have single : notedPage.store.classes.SingleFile ⟨8⟩ := by decide +kernel
  have found : ∀ name ∈ ["div", "part"], notedPage.store.held? ⟨0⟩ name = none ∧
      (notedPage.store.member? ⟨0⟩ name).any (·.2.isOpener) = true := by decide +kernel
  refine ⟨_, supports, rfl, fun name among => ?_,
    supports.unknown rfl ⟨_, rfl⟩ "image" (by decide) rfl,
    (supports.opens "note" (by decide)).2 ⟨rfl, _, _, _, rfl⟩⟩
  obtain ⟨free, opener⟩ := found name among
  refine supports.opens_listed single name among free fun owner plain => ?_
  rw [plain] at opener
  cases opener

/-- What the class of a page lists, and whether reading a name of the page yields an opener. -/
def listsAndOpens (name : String) (s : Session Names) : Option (List String) × Bool :=
  (match s.store.classes.listing (s.store.get ⟨0⟩).classId with
    | .ok (.tuple items) => some (items.map Value.written)
    | _ => none,
  match BuilderRef.read ⟨0⟩ name s with
    | .ok (.callable _ _ member) _ => member.isOpener
    | _ => false)

/-- Not everything that is listed opens, and not everything that opens is listed: the attribute of a
division hides an opener of the same name, and a plain function replaces one; an opener of a plain
class or of a second class of builders is not listed. A class may also be registered, listed and read
in a way of its own. -/
theorem not_supported_of_hidden :
    listsAndOpens "id" (pageOf {} ["DivBuilder"] (opening "id")) = (some ["div", "id"], false) ∧
      listsAndOpens "div" (pageOf {} ["BodyBuilder"] { plain := ["div"] }) =
        (some ["div"], false) ∧
      listsAndOpens "note" (pageOf (opening "note") ["Noted", "BodyBuilder"] {}) =
        (some ["div"], true) ∧
      listsAndOpens "div" (pageOf {} ["DocumentBuilder", "BodyBuilder"] {}) =
        (some ["body", "head"], true) ∧
      listsAndOpens "part"
          (pageOf { plain := [Hook.heir.name] } ["Noted", "BodyBuilder"] (opening "part")) =
        (some ["div"], true) ∧
      listsAndOpens "div" (pageOf {} ["BodyBuilder"] { plain := ["elements"] }) = (none, true) ∧
      listsAndOpens "div" (pageOf {} ["BodyBuilder"] { plain := [Hook.read.name] }) =
        (some ["div"], false) := by
  refine ⟨?_, ?_, ?_, ?_, ?_, ?_, ?_⟩ <;> decide +kernel

end Script

end ScopedHtml
