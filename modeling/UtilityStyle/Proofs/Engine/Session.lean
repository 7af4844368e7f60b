import Mathlib.Data.List.DropRight
import Mathlib.Data.List.Induction
import UtilityStyle.Engine.Session
import UtilityStyle.Proofs.Engine.Order

namespace UtilityStyle

abbrev Exchange := Command × Reply

namespace Exchange

def failure? : Exchange → Option Error
  | (.list _, .style (.error error)) | (.token _, .style (.error error)) => some error
  | _ => none

def failuresSinceClear (history : List Exchange) : List Error :=
  (history.rtakeWhile fun exchange => exchange.1 ≠ .clear).filterMap failure?

theorem failuresSinceClear_clear (history : List Exchange) (reply : Reply) :
    failuresSinceClear (history ++ [(.clear, reply)]) = [] := by
  unfold failuresSinceClear
  rw [List.rtakeWhile_concat_neg _ _ _ (by simp)]
  rfl

theorem failuresSinceClear_of_ne {exchange : Exchange} (h : exchange.1 ≠ .clear)
    (history : List Exchange) :
    failuresSinceClear (history ++ [exchange]) =
      failuresSinceClear history ++ (failure? exchange).toList := by
  unfold failuresSinceClear
  rw [List.rtakeWhile_concat_pos _ _ _ (by simpa using h), List.filterMap_append]
  cases h : failure? exchange <;> simp [h]

end Exchange

inductive Engine.Answers (engine : Engine) : Exchange → Prop
  | list (classes : String) : engine.Answers (.list classes, .style (engine.resolveList classes))
  | token (raw : String) : engine.Answers (.token raw, .style (engine.resolve raw))
  | classify (className : String) :
      engine.Answers (.classify className, .route (.find engine.rules className))
  | setOptions (options : Options) : engine.Answers (.setOptions options, .done)
  | clear : engine.Answers (.clear, .done)

def Command.options? : Command → Option Options
  | .setOptions options => some options
  | _ => none

def Engine.after (engine : Engine) (commands : List Command) : Engine :=
  { engine with options := (commands.filterMap Command.options?).getLast?.getD engine.options }

namespace Reports

def ofErrors (errors : List Error) : Reports :=
  ⟨errors.map Error.message, errors.filterMap suggestionsOf?⟩

theorem ofErrors_append_singleton (errors : List Error) (error : Error) :
    ofErrors (errors ++ [error]) = (ofErrors errors).add error := by
  unfold ofErrors add
  rw [List.map_append, List.filterMap_append]
  cases h : suggestionsOf? error <;> simp [h]

theorem suggestionsOf?_eq_some_iff {error : Error} {className : String} {found : Suggestions} :
    suggestionsOf? error = some (className, found) ↔
      error = .unresolvable className found ∧ found.targets ≠ [] := by
  cases error with
  | unresolvable own suggestions =>
    simp only [suggestionsOf?, Suggestions.isEmpty, Suggestions.size, Option.ite_none_left_eq_some,
      Option.some.injEq, Prod.mk.injEq, Error.unresolvable.injEq, List.length_eq_zero_iff,
      decide_eq_true_eq]
    constructor
    · rintro ⟨hne, rfl, rfl⟩
      exact ⟨⟨rfl, rfl⟩, hne⟩
    · rintro ⟨⟨rfl, rfl⟩, hne⟩
      exact ⟨hne, rfl, rfl⟩
  | _ => simp [suggestionsOf?]

end Reports

namespace Session

def runAll (session : Session) (commands : List Command) : List Exchange × Session :=
  commands.foldl
    (fun (history, session) command =>
      let (reply, next) := session.run command
      (history ++ [(command, reply)], next))
    ([], session)

variable (session : Session)

theorem runAll_append_singleton (commands : List Command) (last : Command) :
    session.runAll (commands ++ [last]) =
      ((session.runAll commands).1 ++ [(last, ((session.runAll commands).2.run last).1)],
        ((session.runAll commands).2.run last).2) := by
  unfold runAll
  rw [List.foldl_append]
  rfl

theorem commands_runAll (commands : List Command) :
    (session.runAll commands).1.map Prod.fst = commands := by
  induction commands using List.reverseRecOn with
  | nil => rfl
  | append_singleton init last ih =>
    rw [runAll_append_singleton, List.map_append, ih]
    rfl

theorem length_runAll (commands : List Command) :
    (session.runAll commands).1.length = commands.length := by
  simpa using congrArg List.length (session.commands_runAll commands)

theorem engine_runAll (engine : Engine) (commands : List Command) :
    (runAll { engine } commands).2.engine = engine.after commands := by
  induction commands using List.reverseRecOn with
  | nil => rfl
  | append_singleton init last ih =>
    rw [runAll_append_singleton]
    have hafter : engine.after (init ++ [last]) =
        { engine.after init with
          options := last.options?.getD (engine.after init).options } := by
      unfold Engine.after
      rw [List.filterMap_append]
      cases h : last.options? <;> simp [h]
    rw [hafter, ← ih]
    cases last <;> rfl

theorem answers_run (command : Command) :
    session.engine.Answers (command, (session.run command).1) := by
  cases command with
  | list classes => exact .list classes
  | token raw => exact .token raw
  | classify className => exact .classify className
  | setOptions options => exact .setOptions options
  | clear => exact .clear

theorem getElem?_runAll (before after : List Command) (command : Command) :
    (session.runAll (before ++ command :: after)).1[before.length]? =
      some (command, ((session.runAll before).2.run command).1) := by
  induction after using List.reverseRecOn with
  | nil =>
    rw [runAll_append_singleton, ← session.length_runAll before, List.getElem?_concat_length]
  | append_singleton init last ih =>
    rw [← List.cons_append, ← List.append_assoc, runAll_append_singleton,
      List.getElem?_append_left (by simp [length_runAll]), ih]

theorem exists_answer (engine : Engine) (before after : List Command) (command : Command) :
    ∃ reply, (runAll { engine } (before ++ command :: after)).1[before.length]? =
      some (command, reply) ∧ (engine.after before).Answers (command, reply) := by
  refine ⟨_, getElem?_runAll _ before after command, ?_⟩
  rw [← engine_runAll]
  exact answers_run _ command

theorem reports_run (command : Command) :
    (session.run command).2.reports =
      if command = .clear then .empty
      else (Exchange.failure? (command, (session.run command).1)).elim session.reports
        session.reports.add := by
  cases command with
  | list classes =>
    cases h : session.engine.resolveList classes <;>
      simp [run, resolved, Reports.addResult, Exchange.failure?, h]
  | token raw =>
    cases h : session.engine.resolve raw <;>
      simp [run, resolved, Reports.addResult, Exchange.failure?, h]
  | classify className | setOptions options => rfl
  | clear => rfl

theorem reports_runAll_eq_ofErrors (engine : Engine) (commands : List Command) :
    (runAll { engine } commands).2.reports =
      .ofErrors (Exchange.failuresSinceClear (runAll { engine } commands).1) := by
  induction commands using List.reverseRecOn with
  | nil => rfl
  | append_singleton init last ih =>
    rw [runAll_append_singleton, reports_run]
    split
    · rename_i hclear
      subst hclear
      rw [Exchange.failuresSinceClear_clear]
      rfl
    · rename_i hne
      rw [Exchange.failuresSinceClear_of_ne hne, ih]
      cases Exchange.failure? (last, ((runAll { engine } init).2.run last).1) with
      | none => rw [Option.elim_none, Option.toList_none, List.append_nil]
      | some error =>
        rw [Option.elim_some, Option.toList_some, Reports.ofErrors_append_singleton]

/-- In any run of commands each reply is that of the engine with the options that were set last, and
after the run the reports are the texts of the errors that were returned since the last clearing, in
order, and the suggestions that came with those of them that had any. -/
theorem reports_runAll (engine : Engine) (commands : List Command) :
    (runAll { engine } commands).1.map Prod.fst = commands ∧
      (∀ before command after, commands = before ++ command :: after →
        ∃ reply, (runAll { engine } commands).1[before.length]? = some (command, reply) ∧
          (engine.after before).Answers (command, reply)) ∧
      (runAll { engine } commands).2.reports.errors =
        (Exchange.failuresSinceClear (runAll { engine } commands).1).map Error.message ∧
      (runAll { engine } commands).2.reports.suggestions =
        (Exchange.failuresSinceClear (runAll { engine } commands).1).filterMap
          Reports.suggestionsOf? ∧
      ∀ error className found, Reports.suggestionsOf? error = some (className, found) ↔
        error = .unresolvable className found ∧ found.targets ≠ [] := by
  have hreports := reports_runAll_eq_ofErrors engine commands
  refine ⟨commands_runAll _ commands, ?_, ?_, ?_,
    fun _ _ _ => Reports.suggestionsOf?_eq_some_iff⟩
  · rintro before command after rfl
    exact exists_answer engine before after command
  · rw [hreports]
    rfl
  · rw [hreports]
    rfl

def reddish : Engine := ⟨⟨[("borderColor", .object [("x", .string "red")])]⟩, {}, .empty⟩

def mishaps : List Command := [
  .token "border-q", .clear, .list "block border-q", .classify "border-q",
  .setOptions { sassyPseudo := true }, .token "hover:block", .token "-block"]

theorem reddish_fails :
    reddish.resolveList "block border-q" =
      .error (.unresolvable "border-q" (.ranked [⟨"border-x", "red", Binary.zero false⟩])) := by
  have hordered : reddish.ordered "block border-q" = ["block", "border-q"] :=
    Order.byScreen_eq_self (by decide)
  rw [Engine.resolveList, hordered]
  decide

theorem reports_runAll_mishaps :
    (runAll { engine := reddish } mishaps).2.reports.errors =
        ["border-q was not found\n\nDid you mean border-x?", "block doesn’t support negatives"] ∧
      (runAll { engine := reddish } mishaps).2.reports.suggestions =
        [("border-q", .ranked [⟨"border-x", "red", Binary.zero false⟩])] ∧
      ∃ style, (runAll { engine := reddish } mishaps).1[5]? =
          some (.token "hover:block", .style (.ok style)) ∧ style.keys = ["&:hover"] := by
  obtain ⟨-, hanswers, herrors, hsuggestions, -⟩ := reports_runAll reddish mishaps
  have hfailures : Exchange.failuresSinceClear (runAll { engine := reddish } mishaps).1 =
      [.unresolvable "border-q" (.ranked [⟨"border-x", "red", Binary.zero false⟩]),
        .unsupported "block" .negatives] := by
    simp only [mishaps, runAll, List.foldl_cons, List.foldl_nil, run, resolved, reddish_fails]
    decide
  rw [hfailures] at herrors hsuggestions
  refine ⟨herrors.trans (by decide), hsuggestions.trans (by decide), ?_⟩
  obtain ⟨reply, hreply, hanswer⟩ :=
    hanswers (mishaps.take 5) (.token "hover:block") (mishaps.drop 6) rfl
  have hstyle : (reddish.after (mishaps.take 5)).resolve "hover:block" =
      .ok (.under "&:hover" (.one "display" "block")) := by
    decide +kernel
  cases hanswer
  rw [hstyle] at hreply
  exact ⟨_, hreply, rfl⟩

end Session

end UtilityStyle
