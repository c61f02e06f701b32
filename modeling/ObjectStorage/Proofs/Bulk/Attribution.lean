import ObjectStorage.Proofs.Bulk.Reported

/-!
# Which handle a failed item is

A server that reports an item writes the path that it was sent, or escapes the slashes in it too.
Either way the names are read back as they were, although the path was cut before it was escaped and
is unescaped before it is cut: no container has a slash in its name, so that the first slash after
the one in front ends it, whatever the object is called.
-/

namespace ObjectStorage

namespace Bulk

/-! ## Names that are echoed -/

/-- How the server may write the names: as a path, or with the slashes between them escaped. -/
inductive Echoes (container : String) (object : Option String) : String → Prop
  | sent : Echoes container object (Address.path container object)
  | escaped : Echoes container object ("/" ++ Address.segment (Address.joined container object))

variable {container name : String} {object : Option String}

private theorem Echoes.decode?_eq (echoes : Echoes container object name) :
    Percent.decode? name = some ("/" ++ Address.joined container object) := by
  cases echoes with
  | sent => exact Address.decode?_path container object
  | escaped =>
      -- The names as a whole are one more piece after a slash.
      have whole := Address.decodeBytes_segments [(Address.joined container object).toList]
      rw [List.flatMap_singleton, List.flatMap_singleton] at whole
      have written : ("/" ++ Address.segment (Address.joined container object)).toList =
          '/' :: Address.encodeSegment (Address.joined container object).toList := by
        simp [Address.segment]
      have names : '/' :: (Address.joined container object).toList =
          ("/" ++ Address.joined container object).toList := by
        simp
      rw [Percent.decode?, Utf8.ofText, written, whole, names]
      exact Utf8.decode?_ofText _

/-- Of the decoded names the slash in front goes, and no other: the container has none. -/
private theorem Report.placeOf_of_decode? (some : container ≠ "") (noSlash : '/' ∉ container.toList)
    (h : Percent.decode? name = .some ("/" ++ Address.joined container object)) :
    Report.placeOf name = (container, object.getD "") := by
  obtain ⟨first, rest, shape⟩ : ∃ first rest, container.toList = first :: rest :=
    List.exists_cons_of_ne_nil fun h => some (String.toList_inj.mp h)
  have plain : first ≠ '/' := by
    rintro rfl
    exact noSlash (shape ▸ List.mem_cons_self)
  have trimmed (more : List Char) :
      Text.trimStart (· = '/') ('/' :: (container.toList ++ more)) = container.toList ++ more := by
    simp [Text.trimStart, shape, plain]
  unfold Report.placeOf
  rw [h]
  cases object with
  | none =>
      have decoded : ("/" ++ container).toList = '/' :: (container.toList ++ []) := by simp
      simp only [Option.getD_some, Address.joined]
      rw [decoded, trimmed, List.append_nil, Text.cut?_eq_none noSlash]
      simp
  | some object =>
      have decoded : ("/" ++ (container ++ "/" ++ object)).toList =
          '/' :: (container.toList ++ '/' :: object.toList) := by
        simp
      simp only [Option.getD_some, Address.joined]
      rw [decoded, trimmed, Text.cut?_append noSlash]
      simp

theorem Echoes.placeOf_eq (echoes : Echoes container object name)
    (proper : Address.check container object = .ok ()) :
    Report.placeOf name = (container, object.getD "") := by
  rcases Address.check_cases container object with ⟨-, accepted, -⟩ | ⟨⟨fault, refused⟩, -⟩
  · exact Report.placeOf_of_decode? (fun h => accepted (.inl h))
      (fun h => accepted (.inr (.inl h))) echoes.decode?_eq
  · exact nomatch proper.symm.trans refused

end Bulk

namespace Account

open Bulk

variable {σ : Type}

/-! ## Items -/

/-- The item bears the names. -/
structure IsItem (doomed : Doomed) (item : FailedItem) : Prop where
  container : item.container = doomed.container
  object : item.object = doomed.object.getD ""

private theorem Doomed.IsOf.object_ne {account : String} {doomed : Doomed}
    (isOf : doomed.IsOf account) : doomed.object ≠ some "" := by
  intro h
  rcases Address.check_cases doomed.container doomed.object with ⟨-, -, plain⟩ | ⟨⟨fault, bad⟩, -⟩
  · exact plain "" h (.inl rfl)
  · exact nomatch isOf.2.symm.trans bad

theorem IsItem.unique {account : String} {first second : Doomed} {item : FailedItem}
    (isFirst : IsItem first item) (isSecond : IsItem second item) (firstOf : first.IsOf account)
    (secondOf : second.IsOf account) : first = second := by
  have container := isFirst.container.symm.trans isSecond.container
  have names := isFirst.object.symm.trans isSecond.object
  have object : first.object = second.object := by
    have firstNamed := firstOf.object_ne
    have secondNamed := secondOf.object_ne
    cases inFirst : first.object with
    | none =>
        cases inSecond : second.object with
        | none => rfl
        | some name =>
            rw [inFirst, inSecond] at names
            exact absurd (inSecond.trans (congrArg some names.symm)) secondNamed
    | some name =>
        cases inSecond : second.object with
        | none =>
            rw [inFirst, inSecond] at names
            exact absurd (inFirst.trans (congrArg some names)) firstNamed
        | some other =>
            rw [inFirst, inSecond] at names
            exact congrArg some names
  obtain ⟨firstAccount, firstContainer, firstObject⟩ := first
  obtain ⟨secondAccount, secondContainer, secondObject⟩ := second
  cases container
  cases object
  rw [Doomed.mk.injEq]
  exact ⟨firstOf.1.trans secondOf.1.symm, rfl, rfl⟩

/-- An entry that echoes one of these is the item of that one, and of no other. -/
structure Attributed (all : List Doomed) (entry : String × String) (item : FailedItem) :
    Prop where
  names : Report.Names entry item
  alone : (∃ doomed ∈ all, Echoes doomed.container doomed.object entry.1) →
    ∃ doomed ∈ all, IsItem doomed item ∧ Echoes doomed.container doomed.object entry.1 ∧
      ∀ other ∈ all,
        IsItem other item ∨ Echoes other.container other.object entry.1 → other = doomed

private theorem isItem_of_echoes {account : String} {doomed : Doomed} {entry : String × String}
    {item : FailedItem} (isOf : doomed.IsOf account) (names : Report.Names entry item)
    (echoes : Echoes doomed.container doomed.object entry.1) : IsItem doomed item := by
  have place := names.place.trans (echoes.placeOf_eq isOf.2)
  rw [Prod.mk.injEq] at place
  exact ⟨place.1, place.2⟩

theorem attributed_of_names {account : String} {all : List Doomed} {entry : String × String}
    {item : FailedItem} (proper : ∀ doomed ∈ all, doomed.IsOf account)
    (names : Report.Names entry item) : Attributed all entry item where
  names := names
  alone := by
    rintro ⟨doomed, hdoomed, echoes⟩
    have isItem := isItem_of_echoes (proper doomed hdoomed) names echoes
    refine ⟨doomed, hdoomed, isItem, echoes, ?_⟩
    rintro other hother (otherItem | otherEchoes)
    · exact otherItem.unique isItem (proper other hother) (proper doomed hdoomed)
    · exact (isItem_of_echoes (proper other hother) names otherEchoes).unique isItem
        (proper other hother) (proper doomed hdoomed)

/-! ## What a deletion reports -/

/--
What is echoed is read back as the names that were sent, so that in the failure of a deletion each
item whose entry echoes something of the call is that and nothing else of the call.
-/
theorem items_attributed (transport : Transport σ) (account : Account) (objects : List Object)
    (containers : List Container) (options : Options) (events : List Observation) (state : σ) :
    (∀ container object, Address.check container object = .ok () →
      ∀ name, Echoes container object name →
        Report.placeOf name = (container, object.getD "")) ∧
    ∃ result new last,
      (bulkDelete transport.observed account objects containers options).attempt (events, state) =
        (result, (events ++ new, last)) ∧
      ∀ deletion failure, result = .ok deletion → deletion.failure = some failure →
        ∃ reports before report,
          List.Forall₂ (fun send report => Brings send.2 report) (Observation.sends new) reports ∧
          EndsWith reports before report failure ∧
          List.Forall₂ (Attributed (allDoomed objects containers)) report.errors failure.items := by
  refine ⟨fun container object proper name echoes => echoes.placeOf_eq proper, ?_⟩
  obtain ⟨result, new, last, run, cases⟩ :=
    bulkDelete_cases transport account objects containers options events state
  refine ⟨result, new, last, run, ?_⟩
  rintro deletion failure rfl failed
  rcases cases with ⟨fault, -, ⟨⟩, -⟩ | ⟨proper, ⟨error, -, -, ⟨⟩, -⟩ | ⟨lines, outcomes, deleted⟩⟩
  obtain ⟨reports, brings, tallied⟩ := deleted.exists_tallied
  obtain ⟨before, report, ends, -, -⟩ := tallied.failed failure failed
  exact ⟨reports, before, report, brings, ends,
    ends.tells.items.imp fun entry item names => attributed_of_names proper names⟩

/-- Slashes at both ends of its name, a percent sign in it, and a letter beyond ASCII before it. -/
def awkward : Object := Handle.fresh smallAccount.site (.object "é" "/%2F//")

/-- Whatever is sent, the answer speaks of the awkward object, once in each way. -/
def echoingServer : Transport Unit where
  send _ := fun state =>
    (⟨.ok ⟨.ok, .none, .bytes (Utf8.ofText ("\x7b\"Response Status\": \"403 Forbidden\", " ++
      "\"Errors\": [[\"/%C3%A9//%252F//\", \"401 Unauthorized\"], " ++
        "[\"/%C3%A9%2F%2F%252F%2F%2F\", \"403 Forbidden\"]]\x7d"))⟩, 0⟩, state)

def awkwardFailure : Failure :=
  ⟨.forbidden, "", [⟨"é", "/%2F//", .unauthorized⟩, ⟨"é", "/%2F//", .forbidden⟩]⟩

theorem items_attributed_awkward :
    ∃ new last entries,
      (bulkDelete echoingServer.observed smallAccount [awkward] [awkward.container] .none).attempt
          ([], ()) = (.ok ⟨0, 0, some awkwardFailure⟩, (new, last)) ∧
        List.Forall₂ (Attributed (allDoomed [awkward] [awkward.container])) entries
          awkwardFailure.items := by
  have value : ((bulkDelete echoingServer.observed smallAccount [awkward] [awkward.container]
      .none).attempt ([], ())).1 = .ok ⟨0, 0, some awkwardFailure⟩ := by
    decide +kernel
  obtain ⟨-, result, new, last, run, reported⟩ :=
    items_attributed echoingServer smallAccount [awkward] [awkward.container] .none [] ()
  rw [run] at value
  obtain ⟨reports, before, report, -, -, all⟩ := reported _ awkwardFailure value rfl
  exact ⟨new, last, report.errors, by rw [run, ← value]; rfl, all⟩

end Account

end ObjectStorage
