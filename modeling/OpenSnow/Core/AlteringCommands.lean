import OpenSnow.Core.Execution
import OpenSnow.Core.Targets

/-!
# Commands that change something

The branches of `handle_command` that lead to a change of tables, views, files
or warehouses, and the first letters of the texts that take them.  The other
commands leave the whole state as it is.
-/

namespace OpenSnow.Core.Commands

open Foundation
open Rust.Text

/-! ## Branches -/

/-- The handler can change a table, a view, a file or a warehouse. -/
def Handler.alters : Handler → Bool
  | .createWarehouse | .alterWarehouse | .copyInto | .ctas
  | .createMaterializedView | .refreshMaterializedView
  | .dropMaterializedView | .dropTable => true
  | .showWarehouses | .useWarehouse | .showTables | .showDatabases
  | .describe => false

/-- The handlers that change something. -/
def alteringHandlers : List Handler :=
  [.createWarehouse, .alterWarehouse, .copyInto, .ctas,
    .createMaterializedView, .refreshMaterializedView,
    .dropMaterializedView, .dropTable]

theorem mem_alteringHandlers_iff (handler : Handler) :
    handler ∈ alteringHandlers ↔ handler.alters := by
  cases handler <;> decide

/-- The text satisfies the condition of the branch of one of the handlers. -/
def Begins (handlers : List Handler) (text : List Char) : Prop :=
  ∃ handler ∈ handlers, (true, handler) ∈ branches text

instance (handlers : List Handler) (text : List Char) :
    Decidable (Begins handlers text) :=
  inferInstanceAs (Decidable (∃ handler ∈ handlers, _))

/-- The first two letters of the texts that a branch takes. -/
def Handler.letters : Handler → String
  | .createWarehouse | .ctas | .createMaterializedView => "CR"
  | .alterWarehouse => "AL"
  | .copyInto => "CO"
  | .refreshMaterializedView => "RE"
  | .dropMaterializedView | .dropTable => "DR"
  | .showWarehouses | .showTables | .showDatabases => "SH"
  | .useWarehouse => "US"
  | .describe => "DE"

theorem alters_iff_letters (handler : Handler) :
    handler.alters ↔ handler.letters ∈ ["CR", "AL", "CO", "RE", "DR"] := by
  cases handler <;> decide

/-- A keyword that a text begins with, and that is a word of its own. -/
theorem word_of_afterKeyword {text rest : List Char} {expected : String}
    (upper : expected.toList.map Char.toUpper = expected.toList)
    (follows : afterKeyword text expected = some rest) :
    ∃ word, trimStart text = word ++ rest ∧
      word.map Char.toUpper = expected.toList ∧
        ∀ ch ∈ rest.head?, isWhitespace ch := by
  have cut :
      (if eqIgnoreCase ((trimStart text).takeWhile (!isWhitespace ·)) expected
        then some ((trimStart text).dropWhile (!isWhitespace ·))
        else none) = some rest := follows
  split at cut
  · rename_i same
    rw [Option.some.injEq] at cut
    rw [← cut]
    refine
      ⟨_, List.takeWhile_append_dropWhile.symm,
        (eqIgnoreCase_iff upper).mp same, ?_⟩
    intro ch isHead
    have stops :
        Stops (!isWhitespace ·) ((trimStart text).dropWhile (!isWhitespace ·)) :=
      stops_dropWhile _
    simpa using stops ch isHead
  · cases cut

theorem letters_of_upper {front : List Char} {word : String}
    (upper : front.map Char.toUpper = word.toList)
    (letters : word.toList.all Char.isAlpha) : ∀ ch ∈ front, ch.isAlpha := by
  intro ch member
  have isUpper : ch.toUpper ∈ word.toList := by
    rw [← upper]
    exact List.mem_map_of_mem member
  rw [← Char.isAlpha_toUpper_eq_isAlpha]
  exact List.all_eq_true.mp letters _ isUpper

variable {text : List Char}

theorem upper_of_afterKeywords {more : List String}
    (stops : Stops isWhitespace text)
    (follows : (afterKeywords text ("CREATE" :: more)).isSome) :
    "CREATE".toList <+: upperChars text := by
  rcases Option.isSome_iff_exists.mp follows with ⟨rest, later⟩
  rcases Option.bind_eq_some_iff.mp later with ⟨next, first, -⟩
  rcases word_of_afterKeyword (by decide) first with ⟨word, shape, spelled, -⟩
  rw [trimStart_of_stops stops] at shape
  have ascii : ∀ ch ∈ word, ch.toNat < 0x80 := by
    intro ch member
    apply isAscii_of_alphanum
    have letter := letters_of_upper spelled (by decide) ch member
    simp [Char.isAlphanum, letter]
  rw [shape, upperChars_append, upperChars_of_ascii ascii, spelled]
  exact List.prefix_append _ _

theorem createsTable_keywords (creates : createsTable text) :
    (afterKeywords text ["CREATE", "TABLE"]).isSome := by
  rw [createsTable] at creates
  split at creates
  · cases creates
  · rename_i follows
    rw [follows]
    rfl

theorem letters_of_branch {handler : Handler} (stops : Stops isWhitespace text)
    (row : (true, handler) ∈ branches text) :
    handler.letters.toList <+: upperChars text := by
  have fromStart : ∀ start : String,
      handler.letters.toList <+: start.toList →
        true = hasPrefix (upperChars text) start →
          handler.letters.toList <+: upperChars text := by
    intro start shorter begins
    exact shorter.trans (List.isPrefixOf_iff_prefix.mp begins.symm)
  have fromOne : ∀ start other : String,
      handler.letters.toList <+: start.toList →
      handler.letters.toList <+: other.toList →
        true =
            (hasPrefix (upperChars text) start ||
              hasPrefix (upperChars text) other) →
          handler.letters.toList <+: upperChars text := by
    intro start other shorter also begins
    rcases Bool.or_eq_true_iff.mp begins.symm with first | second
    · exact fromStart start shorter first.symm
    · exact fromStart other also second.symm
  have creation : handler.letters = "CR" → ∀ more,
      (afterKeywords text ("CREATE" :: more)).isSome →
        handler.letters.toList <+: upperChars text := by
    intro create more follows
    rw [create]
    exact
      (show "CR".toList <+: "CREATE".toList by decide).trans
        (upper_of_afterKeywords stops follows)
  cases handler <;>
    simp only [branches, List.mem_cons, Prod.mk.injEq, reduceCtorEq, and_false,
      false_or, or_false, and_true, List.not_mem_nil] at row
  case showWarehouses => exact fromStart _ (by decide) row
  case createWarehouse => exact fromStart _ (by decide) row
  case alterWarehouse => exact fromStart _ (by decide) row
  case useWarehouse => exact fromStart _ (by decide) row
  case copyInto => exact fromOne _ _ (by decide) (by decide) row
  case ctas =>
    exact creation rfl ["TABLE"] (createsTable_keywords row.symm)
  case createMaterializedView =>
    exact creation rfl ["MATERIALIZED", "VIEW"] row.symm
  case refreshMaterializedView => exact fromStart _ (by decide) row
  case dropMaterializedView => exact fromStart _ (by decide) row
  case showTables => exact fromStart _ (by decide) row
  case showDatabases => exact fromOne _ _ (by decide) (by decide) row
  case describe => exact fromOne _ _ (by decide) (by decide) row
  case dropTable => exact fromStart _ (by decide) row

/-! ## The chosen branch -/

theorem exists_firstHolding {rows : List (Bool × Handler)} {handler : Handler}
    (row : (true, handler) ∈ rows) :
    ∃ first, firstHolding rows = some first := by
  induction rows with
  | nil => cases row
  | cons head rest ih =>
      rcases head with ⟨holds, candidate⟩
      rw [firstHolding]
      split
      · exact ⟨candidate, rfl⟩
      · rename_i fails
        rcases List.mem_cons.mp row with here | later
        · rw [Prod.mk.injEq] at here
          exact absurd here.1.symm fails
        · exact ih later

/-- The branches of a text all take the same two letters. -/
theorem letters_of_chosen {handler chosen : Handler}
    (stops : Stops isWhitespace text) (row : (true, handler) ∈ branches text)
    (first : chosenHandler text = some chosen) :
    chosen.letters = handler.letters := by
  have one := letters_of_branch stops (firstHolding_mem first)
  have other := letters_of_branch stops row
  have two : ∀ handler : Handler, handler.letters.toList.length = 2 := by
    intro handler
    cases handler <;> rfl
  rw [List.prefix_iff_eq_take, two] at one other
  exact String.toList_inj.mp (one.trans other.symm)

/-- A text that takes one of the altering branches is dispatched to one. -/
theorem alters_of_begins {handlers : List Handler}
    (stops : Stops isWhitespace text) (begins : Begins handlers text)
    (altering : ∀ handler ∈ handlers, handler.alters) :
    ∃ chosen, chosenHandler text = some chosen ∧ chosen.alters := by
  rcases begins with ⟨handler, member, row⟩
  rcases exists_firstHolding row with ⟨chosen, first⟩
  refine ⟨chosen, first, ?_⟩
  rw [alters_iff_letters, letters_of_chosen stops row first,
    ← alters_iff_letters]
  exact altering handler member

theorem begins_of_chosen {handlers : List Handler}
    {chosen : Handler} (first : chosenHandler text = some chosen)
    (member : chosen ∈ handlers) : Begins handlers text :=
  ⟨chosen, member, firstHolding_mem first⟩

/-! ## Leading comments -/

theorem stripLoop_stops {fuel : Nat} {text result : List Char}
    (ran : stripLoop fuel (trimStart text) = some result) :
    Stops isWhitespace result := by
  induction fuel generalizing text with
  | zero =>
      rw [stripLoop, Option.some.injEq] at ran
      rw [← ran]
      exact stops_dropWhile text
  | succ fuel ih =>
      have trimmed : Stops isWhitespace (trimStart text) :=
        stops_dropWhile text
      rw [stripLoop.eq_def] at ran
      dsimp only at ran
      split at ran
      · split at ran
        · rcases Option.bind_eq_some_iff.mp ran with ⟨after, -, later⟩
          exact ih later
        · rw [Option.some.injEq] at ran
          rw [← ran]
          exact trimmed
      · split at ran
        · rcases Option.bind_eq_some_iff.mp ran with ⟨after, -, later⟩
          exact ih later
        · rw [Option.some.injEq] at ran
          rw [← ran]
          exact stops_nil
      · rw [Option.some.injEq] at ran
        rw [← ran]
        exact trimmed

theorem stripped_stops (sql : List Char) : Stops isWhitespace (stripped sql) :=
  stripLoop_stops (stripLeadingSqlComments_eq sql)

end OpenSnow.Core.Commands

namespace OpenSnow.Core

open Core.Commands
open Foundation

variable {Row Key Location Contents : Type} [DecidableEq Key]
  [DecidableEq Location] (platform : Platform Row Key Location Contents)

/-! ## The other commands -/

/-- A command of a handler that alters nothing leaves the state as it is. -/
theorem handleCommand_unchanged {sql : String} {handler : Handler}
    {handling : Handling Row Key Location Contents (Reply Row)}
    (dispatched : handlerOf sql = some (some handler))
    (other : handler.alters = false)
    (handled : handleCommand platform sql = some (some handling))
    (state : EngineState Row Key Location Contents) :
    (handling state).2 = state := by
  rw [handlerOf_eq, Option.some.injEq] at dispatched
  rw [handleCommand, dispatch_eq, dispatched] at handled
  rcases Option.map_eq_some_iff.mp handled with ⟨parsed, ran, same⟩
  rcases Option.map_eq_some_iff.mp ran with ⟨outcome, read, rfl⟩
  rw [Option.map_some, Option.some.injEq] at same
  rw [← same]
  cases outcome with
  | error message => rfl
  | ok command =>
      have unchanged :
          @Effect.Keeps _ Failure _ (· = state) (perform platform command) := by
        cases handler with
        | showWarehouses =>
            cases read
            exact .bind .look fun _ => .look
        | useWarehouse =>
            rcases Option.map_eq_some_iff.mp read with ⟨rest, -, named⟩
            split at named
            · cases named
            · rw [Except.ok.injEq] at named
              rw [← named]
              refine .bind .look fun _ => .bind .look fun found => ?_
              cases found with
              | true => exact .pure
              | false => exact .fail
        | showTables =>
            cases read
            exact .bind .look fun _ => .pure
        | showDatabases =>
            cases read
            exact .bind .look fun _ => .pure
        | describe =>
            cases read
            exact .bind .look fun _ => .pure
        | createWarehouse | alterWarehouse | copyInto | ctas
        | createMaterializedView | refreshMaterializedView
        | dropMaterializedView | dropTable => cases other
      exact unchanged.after rfl

end OpenSnow.Core
