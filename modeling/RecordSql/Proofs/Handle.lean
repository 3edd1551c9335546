import RecordSql.Handle
import RecordSql.Proofs.Request.Session
import RecordSql.Proofs.Template.Sigils

/-!
# The sigils of reachable handles

`Handle.Reachable` are the handles that come of the initial one by calls that give a handle.  The calls
that change the sigil look at it first, so each of these handles has a usable one
(`Handle.Reachable.isUsable`).

With such a handle, what the text of a request holds of sigils can be counted: those that introduce the
parameters, one for each value that is sent, and those that end a name and are copied with the rest of
the text (`Handle.sigils_of_sent`).
-/

namespace RecordSql

/-! ### Handles that can be had -/

namespace Handle

/-- The handles that come of the initial one by any calls that give a handle. -/
inductive Reachable : Handle → Prop where
  | initial : Reachable initial
  /-- Any configuration, however it was made. -/
  | withConfig {h h' : Handle} (c : Config) (reachable : Reachable h)
    (given : h.withConfig c = .ok h') : Reachable h'
  | withDialect {h : Handle} (d : Dialect) (reachable : Reachable h) : Reachable (h.withDialect d)
  | withSigil {h h' : Handle} (sigil : Char) (reachable : Reachable h)
    (given : h.withSigil sigil = .ok h') : Reachable h'
  | withLogger {h : Handle} (logger : Logger) (reachable : Reachable h) :
    Reachable (h.withLogger logger)

/-- A handle is given only for a configuration whose sigil is usable. -/
theorem isUsable_of_withConfig {h h' : Handle} {c : Config} (given : h.withConfig c = .ok h') :
    Config.isUsable h'.config.sigil = true := by
  unfold Handle.withConfig at given
  obtain ⟨_, hvalid, hh'⟩ := bind_eq_ok_iff.mp given
  obtain rfl := Except.ok.inj hh'
  exact Config.isUsable_of_validate hvalid

/-- No call gives a handle whose sigil could be part of a name or a blank. -/
theorem Reachable.isUsable {h : Handle} (reachable : h.Reachable) :
    Config.isUsable h.config.sigil = true := by
  induction reachable with
  | initial => decide
  | withConfig c _ given _ => exact isUsable_of_withConfig given
  | withDialect d _ ih => exact ih
  | withSigil sigil _ given _ => exact isUsable_of_withConfig given
  | withLogger logger _ ih => exact ih

end Handle

theorem Config.isUsable_eq_true_iff {sigil : Char} :
    isUsable sigil = true ↔ isNameChar sigil = false ∧ Text.isBlank sigil = false := by
  rw [isUsable, Bool.and_eq_true, Bool.not_eq_true', Bool.not_eq_true']

/-! ### Texts of requests -/

namespace Request

variable {ρ σ α : Type} [Record ρ]

/-- The text of a request that has named parameters in it, if it comes to one. -/
def text? (c : Config) : Request ρ α → Option String
  | select r clause _ =>
    (Statement.select (Record.table r) (Record.row r c.dialect) clause).toOption
  | executeNamed sql _ | queryNamed sql _ => some sql
  | _ => none

/-- The statement of such a request is that of its text. -/
theorem exists_named_of_text? {c : Config} {q : Request ρ α} {text : String} {st : Statement}
    (htext : q.text? c = some text) (hst : q.statement c = .ok st) :
    ∃ args, Statement.named c.dialect c.sigil text args = .ok st := by
  -- only these three requests have a text of their caller's
  cases q with
  | select r clause args =>
    have hselect : Statement.select (Record.table r) (Record.row r c.dialect) clause = .ok text :=
      toOption_eq_some_iff.mp htext
    have hstatement : Operation.selectStatement c r clause args = .ok st := hst
    unfold Operation.selectStatement at hstatement
    dsimp only at hstatement
    split at hstatement
    · cases hstatement
    · rw [hselect] at hstatement
      exact ⟨args, hstatement⟩
  | executeNamed sql args => cases htext; exact ⟨args, hst⟩
  | queryNamed sql args => cases htext; exact ⟨args, hst⟩
  | createTable r => cases htext
  | dropTable r => cases htext
  | insert r => cases htext
  | get r => cases htext
  | update r => cases htext
  | delete r => cases htext

/-- What such a request sends is its statement, and nothing behind it. -/
theorem statement_of_mem_calls {client : Client σ} {c : Config} {limits : Limits}
    {q : Request ρ α} {w : World σ} {text : String} (htext : q.text? c = some text) {call : Call}
    (sent : call ∈ q.calls client c limits w) : q.statement c = .ok call.statement := by
  -- only an insert calls twice, and it has no text
  have hbehind (answer : Option (Except Fault ExecResult)) : q.callsBehind c answer = [] := by
    cases q with
    | insert r => cases htext
    | _ => rfl
  unfold calls at sent
  cases hst : q.statement c with
  | error e => rw [hst] at sent; cases sent
  | ok st =>
    rw [hst] at sent
    have hcall : call = q.call c st := by
      dsimp only at sent
      split at sent
      · rename_i st' hfirst
        rw [hbehind, List.mem_singleton] at sent
        rw [sent, hfirst]
      · exact List.mem_singleton.mp sent
    rw [hcall, statement_call]

end Request

/-! ### Sigils of a statement -/

/-- The sigils of a text that is sent as a statement, by the segments of the text that are copied, the
first one apart, and the names between them. -/
structure Statement.AccountsFor (d : Dialect) (sigil : Char) (text : String) (st : Statement)
    (head : List Char) (rest names : List (List Char)) : Prop where
  params_eq : (compile sigil d.markers text).1.params = names.map String.ofList
  length_eq : rest.length = names.length
  text_eq : text.toList = weave (head :: rest) (names.map (sigil :: ·))
  sql_eq : st.sql.toList =
    weave (head :: rest) ((List.range' 1 names.length).map d.style.marker)
  /-- No name has the sigil in it. -/
  not_mem_name : ∀ name ∈ names, sigil ∉ name
  /-- A sigil stands for a value that is sent, or is copied. -/
  count_eq : text.toList.count sigil = st.args.length + (head :: rest).flatten.count sigil
  /-- In front of the first name no sigil is copied, and behind a name only the first character can
  be one. -/
  not_mem_head : sigil ∉ head
  not_mem_tail : ∀ l ∈ rest, sigil ∉ l.tail

/-- The cut of a text at its parameters tells its sigils apart. -/
theorem Statement.exists_accountsFor {d : Dialect} {sigil : Char} {text : String}
    {args : List Argument} {st : Statement} (hsigil : isNameChar sigil = false)
    (h : Statement.named d sigil text args = .ok st) :
    ∃ head rest names, Statement.AccountsFor d sigil text st head rest names := by
  obtain ⟨t, ht⟩ : ∃ t, Template.ofText sigil text = t := ⟨_, rfl⟩
  have hcut : IsCut sigil text.toList t.segments t.nameRuns := Template.isCut_iff.mpr ht
  have hlength : t.nameRuns.length = t.parameters.length := List.length_map _
  have hcompile := compile_eq sigil d text
  rw [ht, ← hlength] at hcompile
  have hsql : st.sql = (compile sigil d.markers text).1.sql := Statement.sql_of_named h
  -- one value is bound for each name
  have hargs : st.args.length = t.nameRuns.length := by
    rw [Statement.named_eq] at h
    obtain ⟨values, hvalues, rfl⟩ := map_eq_ok_iff.mp h
    rw [hcompile] at hvalues
    exact (length_of_bindArguments_eq_ok hvalues).trans (List.length_map _)
  refine ⟨t.head, t.parameters.map (·.after), t.nameRuns, ?_⟩
  exact {
    params_eq := by rw [hcompile]
    length_eq := by rw [List.length_map, hlength]
    text_eq := hcut.weave_eq.symm
    sql_eq := by rw [hsql, hcompile, String.toList_ofList]; rfl
    not_mem_name := hcut.not_mem_name hsigil
    count_eq := by rw [hargs]; exact hcut.count_sigil hsigil
    not_mem_head := hcut.not_mem_first t.head rfl
    not_mem_tail := hcut.not_mem_tail }

namespace Handle

variable {ρ σ α : Type} [Record ρ]

/-- **A handle that can be had has a usable sigil, and accounts for every sigil of a text that it
sends.**  The sigil is neither a name character nor a blank.  When a select or a text with named
parameters is sent, no name has the sigil in it, and the sigils of the text are as many as the values that
are sent and the sigils that are copied, each of which stands directly behind a name. -/
theorem sigils_of_sent {h : Handle} (reachable : h.Reachable) (q : Request ρ α)
    (client : Client σ) (limits : Limits) (w : World σ) :
    (isNameChar h.config.sigil = false ∧ Text.isBlank h.config.sigil = false) ∧
    ∀ text, q.text? h.config = some text →
      ∀ call ∈ World.callsIn client (q.script h.config limits) w,
        (∃ args, Statement.named h.config.dialect h.config.sigil text args = .ok call.statement) ∧
        ∃ head rest names, Statement.AccountsFor h.config.dialect h.config.sigil text
          call.statement head rest names := by
  have husable := Config.isUsable_eq_true_iff.mp reachable.isUsable
  refine ⟨husable, fun text htext call sent => ?_⟩
  rw [Request.callsIn_script] at sent
  have hst := Request.statement_of_mem_calls htext sent
  obtain ⟨args, hnamed⟩ := Request.exists_named_of_text? htext hst
  exact ⟨⟨args, hnamed⟩, Statement.exists_accountsFor husable.1 hnamed⟩

/-- Of three sigils one ends a name and is copied, and one introduces a name without characters. -/
theorem sigils_of_sent_colon :
    let h : Handle := ⟨⟨.postgres, ':'⟩, .standard⟩
    let text := "a=:x:y OR b=:"
    let q : Request Entry Nat := .executeNamed text [⟨"x", .text "1"⟩, ⟨"", .null⟩]
    let st : Statement := ⟨"a=$1:y OR b=$2", [.text "1", .null]⟩
    let w : World Replay := ⟨⟨[], [], 0, [], 0⟩, 0, []⟩
    h.Reachable ∧ q.text? h.config = some text ∧
      .execute st ∈ World.callsIn Replay.client (q.script h.config .none) w ∧
      ∃ head rest names, Statement.AccountsFor .postgres ':' text st head rest names ∧
        (head :: rest).flatten.count ':' = 1 := by
  intro h text q st w
  have hpostgres : (initial.withDialect .postgres).Reachable := .withDialect .postgres .initial
  have reachable : h.Reachable := .withSigil ':' hpostgres rfl
  have htext : q.text? h.config = some text := rfl
  have sent : .execute st ∈ World.callsIn Replay.client (q.script h.config .none) w := by
    rw [Request.callsIn_script]
    decide +kernel
  obtain ⟨-, hsent⟩ := sigils_of_sent reachable q Replay.client .none w
  obtain ⟨-, head, rest, names, haccounts⟩ := hsent text htext (.execute st) sent
  refine ⟨reachable, htext, sent, head, rest, names, haccounts, ?_⟩
  have hcount : text.toList.count ':' = 2 + (head :: rest).flatten.count ':' := haccounts.count_eq
  have hthree : text.toList.count ':' = 3 := by decide
  omega

end Handle

end RecordSql
