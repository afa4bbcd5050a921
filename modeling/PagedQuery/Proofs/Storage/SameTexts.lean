import PagedQuery.Proofs.Storage.Replies
import PagedQuery.Storage.Transaction

/-! Dialogues that differ only in the arguments of their queries and in what they report: a server
that does not look at arguments is sent the same texts by both, and both end alike. -/

namespace PagedQuery

/-- The same delimiter, or two queries of the same text. -/
inductive Statement.SameText : Statement → Statement → Prop
  | query (sql : String) (args others : List Arg) : SameText (.query sql args) (.query sql others)
  | control (c : Control) : SameText (.control c) (.control c)

theorem Statement.SameText.sql_eq {statement other : Statement} (h : statement.SameText other) :
    statement.sql = other.sql := by
  cases h <;> rfl

namespace Dialogue

variable {σ α β ε : Type}

/-- The replies of a server do not depend on arguments. -/
def BlindToArgs (answer : σ → Statement → Reply × σ) : Prop :=
  ∀ s sql args others, answer s (.query sql args) = answer s (.query sql others)

/-- A script gives its replies in order, whatever the queries are. -/
theorem blindToArgs_script : BlindToArgs Script.answer :=
  fun _ _ _ _ => rfl

/-- Reply by reply, two dialogues send the same text, and they end with the same value. What they
report on the way does not count. -/
inductive SameTexts : Dialogue α → Dialogue α → Prop
  | done (a : α) : SameTexts (done a) (done a)
  | send {statement other : Statement} {next others : Reply → Dialogue α}
    (h : statement.SameText other) (hnext : ∀ reply, SameTexts (next reply) (others reply)) :
    SameTexts (send statement next) (send other others)
  | reportLeft (e : LogEvent) {d d' : Dialogue α} (h : SameTexts d d') : SameTexts (report e d) d'
  | reportRight (e : LogEvent) {d d' : Dialogue α} (h : SameTexts d d') : SameTexts d (report e d')

theorem SameTexts.refl (d : Dialogue α) : SameTexts d d := by
  induction d with
  | done a => exact .done a
  | send statement next ih =>
    refine .send ?_ ih
    cases statement with
    | query sql args => exact .query sql args args
    | control c => exact .control c
  | report e rest ih => exact .reportLeft e (.reportRight e ih)

theorem SameTexts.bind {d d' : Dialogue α} {f g : α → Dialogue β} (h : SameTexts d d')
    (h' : ∀ a, SameTexts (f a) (g a)) : SameTexts (d >>= f) (d' >>= g) := by
  induction h with
  | done a => exact h' a
  | send hs _ ih => exact .send hs ih
  | reportLeft e _ ih => exact .reportLeft e ih
  | reportRight e _ ih => exact .reportRight e ih

theorem SameTexts.tellAll {d d' : Dialogue α} (h : SameTexts d d') (events others : List LogEvent) :
    SameTexts (tellAll events >>= fun _ => d) (Dialogue.tellAll others >>= fun _ => d') := by
  induction events with
  | nil =>
    induction others with
    | nil => exact h
    | cons e rest ih => exact .reportRight e ih
  | cons e rest ih => exact .reportLeft e ih

theorem SameTexts.exchange {q q' : Query} (h : q.sql = q'.sql) (event other : LogEvent)
    (value : Reply → α) :
    SameTexts (Dialogue.exchange event q value) (Dialogue.exchange other q' value) := by
  refine .reportLeft event (.reportRight other (.send ?_ fun reply => .done (value reply)))
  rw [Query.statement, Query.statement, h]
  exact .query _ _ _

theorem SameTexts.transaction {body other : Dialogue (Except ε α)} (h : SameTexts body other)
    (ofStorage : StorageError → ε) :
    SameTexts (Dialogue.transaction ofStorage body) (Dialogue.transaction ofStorage other) := by
  refine .send (.control .begin) fun reply => ?_
  cases reply with
  | error e => exact .refl _
  | ok ack => exact h.bind fun _ => .refl _

/-- Against a server that is blind to arguments the two runs cannot be told apart by their texts,
nor by their values. -/
theorem SameTexts.run {d d' : Dialogue α} (h : SameTexts d d') {answer : σ → Statement → Reply × σ}
    (hblind : BlindToArgs answer) (s : σ) :
    (d.run answer s).sent.map Statement.sql = (d'.run answer s).sent.map Statement.sql ∧
      (d.run answer s).value = (d'.run answer s).value := by
  induction h generalizing s with
  | done a => exact ⟨rfl, rfl⟩
  | @send statement other next others hs hnext ih =>
    have hanswer : answer s statement = answer s other := by
      cases hs with
      | query sql args others => exact hblind s sql args others
      | control c => rfl
    obtain ⟨hsent, hvalue⟩ := ih (answer s other).1 (answer s other).2
    simp only [Dialogue.run, hanswer, List.map_cons, hs.sql_eq, hsent, hvalue]
    exact ⟨trivial, trivial⟩
  | reportLeft e _ ih => exact ih s
  | reportRight e _ ih => exact ih s

end Dialogue

end PagedQuery
