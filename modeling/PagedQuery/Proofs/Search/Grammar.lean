import PagedQuery.Proofs.Search.Truth

/-! The grammar of search conditions, and a reader with a stack that leaves no second reading of the
same tokens. -/

namespace PagedQuery

inductive Token where
  | name (s : String)
  | slot (n : Nat)
  | op (op : Comparison)
  | and | or | ilike | in | is | null
  | opening | closing | comma
deriving DecidableEq

/-- The tokens of a predicate. -/
def Atom.tokens : Atom Nat → List Token
  | compare column op value => [.name column, .op op, .slot value]
  | like column pattern => [.name column, .ilike, .slot pattern]
  | oneOf column first rest =>
    [.name column, .in, .opening, .slot first] ++ rest.flatMap (fun n => [.comma, .slot n]) ++
      [.closing]
  | isNull column => [.name column, .is, .null]

namespace SearchCondition

/-- What a rule of the grammar derives: a predicate or a group, factors joined by AND, or terms
joined by OR. -/
inductive Level where
  | factor | term | condition

/-- The grammar: AND binds tighter than OR, both to the left, and brackets group. -/
inductive Derives : Level → List Token → SearchCondition Nat → Prop where
  | predicate (a : Atom Nat) : Derives .factor a.tokens (.atom a)
  | group {ts : List Token} {e : SearchCondition Nat} (h : Derives .condition ts e) :
    Derives .factor (.opening :: (ts ++ [.closing])) e
  | factor {ts : List Token} {e : SearchCondition Nat} (h : Derives .factor ts e) :
    Derives .term ts e
  | and {ts us : List Token} {e f : SearchCondition Nat} (h : Derives .term ts e)
    (h' : Derives .factor us f) : Derives .term (ts ++ .and :: us) (.and e f)
  | term {ts : List Token} {e : SearchCondition Nat} (h : Derives .term ts e) :
    Derives .condition ts e
  | or {ts us : List Token} {e f : SearchCondition Nat} (h : Derives .condition ts e)
    (h' : Derives .term us f) : Derives .condition (ts ++ .or :: us) (.or e f)

/-- What has been read of a factor: nothing yet, a part of a predicate, or all of it. -/
inductive Part where
  | start
  | column (column : String)
  | compared (column : String) (op : Comparison)
  | matched (column : String)
  | tested (column : String)
  | listed (column : String)
  | opened (column : String)
  | item (column : String) (first : Nat) (rest : List Nat)
  | more (column : String) (first : Nat) (rest : List Nat)
  | done (e : SearchCondition Nat)

/-- One more token of a predicate. -/
def Part.next : Part → Token → Option Part
  | start, .name c => some (column c)
  | column c, .op op => some (compared c op)
  | compared c op, .slot n => some (done (.atom (.compare c op n)))
  | column c, .ilike => some (matched c)
  | matched c, .slot n => some (done (.atom (.like c n)))
  | column c, .is => some (tested c)
  | tested c, .null => some (done (.atom (.isNull c)))
  | column c, .in => some (listed c)
  | listed c, .opening => some (opened c)
  | opened c, .slot n => some (item c n [])
  | item c first rest, .comma => some (more c first rest)
  | more c first rest, .slot n => some (item c first (rest ++ [n]))
  | item c first rest, .closing => some (done (.atom (.oneOf c first rest)))
  | _, _ => none

/-- A reader within brackets: for each opening bracket around it and for itself, what stands before
an OR and what stands before an AND. -/
structure Reader where
  outer : List (Option (SearchCondition Nat) × Option (SearchCondition Nat))
  ors : Option (SearchCondition Nat)
  ands : Option (SearchCondition Nat)
  part : Part

/-- The condition behind an AND, together with what stands before it. -/
def conjoin : Option (SearchCondition Nat) → SearchCondition Nat → SearchCondition Nat
  | none, e => e
  | some d, e => .and d e

/-- The condition behind an OR, together with what stands before it. -/
def disjoin : Option (SearchCondition Nat) → SearchCondition Nat → SearchCondition Nat
  | none, e => e
  | some d, e => .or d e

namespace Reader

/-- All that stands within the present brackets, when `e` is the last factor. -/
def inside (r : Reader) (e : SearchCondition Nat) : SearchCondition Nat :=
  disjoin r.ors (conjoin r.ands e)

def step (r : Reader) (t : Token) : Option Reader :=
  match r.part, t with
  | .start, .opening => some ⟨(r.ors, r.ands) :: r.outer, none, none, .start⟩
  | .done e, .and => some { r with ands := some (conjoin r.ands e), part := .start }
  | .done e, .or => some { r with ors := some (r.inside e), ands := none, part := .start }
  | .done e, .closing =>
    match r.outer with
    | [] => none
    | (ors, ands) :: outer => some ⟨outer, ors, ands, .done (r.inside e)⟩
  | part, t => (part.next t).map fun next => { r with part := next }

def run (r : Reader) (ts : List Token) : Option Reader := ts.foldlM step r

theorem run_append (r : Reader) (ts us : List Token) :
    r.run (ts ++ us) = (r.run ts).bind fun s => s.run us :=
  List.foldlM_append

theorem run_cons (r : Reader) (t : Token) (ts : List Token) :
    r.run (t :: ts) = (r.step t).bind fun s => s.run ts := rfl

/-- A predicate is read as itself; the values of a list are read one after the other. -/
theorem run_tokens (a : Atom Nat) {r : Reader} (h : r.part = .start) :
    r.run a.tokens = some { r with part := .done (.atom a) } := by
  obtain ⟨outer, ors, ands, part⟩ := r
  obtain rfl : part = .start := h
  cases a with
  | compare column op value => rfl
  | like column pattern => rfl
  | oneOf column first rest =>
    have hitems : ∀ (rest before : List Nat),
        run ⟨outer, ors, ands, .item column first before⟩
            (rest.flatMap (fun n => [.comma, .slot n]) ++ [.closing]) =
          some ⟨outer, ors, ands, .done (.atom (.oneOf column first (before ++ rest)))⟩ := by
      intro rest
      induction rest with
      | nil =>
        intro before
        rw [List.append_nil]
        rfl
      | cons n rest ih =>
        intro before
        have hnext := ih (before ++ [n])
        rw [List.append_assoc] at hnext
        exact hnext
    exact hitems rest []
  | isNull column => rfl

end Reader

/-- Tokens of a level leave a reader that expects them with what they derive: a factor is done, a
term stands partly before an AND, a condition partly before an OR. -/
def Reads : Level → List Token → SearchCondition Nat → Prop
  | .factor, ts, e => ∀ r : Reader, r.part = .start → r.run ts = some { r with part := .done e }
  | .term, ts, e => ∀ r : Reader, r.part = .start → r.ands = none → ∃ ands last,
    r.run ts = some { r with ands, part := .done last } ∧ conjoin ands last = e
  | .condition, ts, e => ∀ r : Reader, r.part = .start → r.ands = none → r.ors = none →
    ∃ ors ands last, r.run ts = some { r with ors, ands, part := .done last } ∧
      disjoin ors (conjoin ands last) = e

theorem Derives.reads {level : Level} {ts : List Token} {e : SearchCondition Nat}
    (h : Derives level ts e) : Reads level ts e := by
  induction h with
  | predicate a => exact fun r hstart => Reader.run_tokens a hstart
  | @group ts e _ ih =>
    rintro ⟨outer, ors, ands, part⟩ hstart
    obtain rfl : part = .start := hstart
    obtain ⟨ors', ands', last, hrun, hinside⟩ :=
      ih ⟨(ors, ands) :: outer, none, none, .start⟩ rfl rfl rfl
    have hopening : Reader.step ⟨outer, ors, ands, .start⟩ .opening =
        some ⟨(ors, ands) :: outer, none, none, .start⟩ := rfl
    have hclosing : Reader.run ⟨(ors, ands) :: outer, ors', ands', .done last⟩ [.closing] =
        some ⟨outer, ors, ands, .done (disjoin ors' (conjoin ands' last))⟩ := rfl
    rw [Reader.run_cons, hopening, Option.bind_some, Reader.run_append, hrun, Option.bind_some,
      hclosing, hinside]
  | factor _ ih =>
    intro r hstart hands
    refine ⟨none, _, ?_, rfl⟩
    rw [ih r hstart, ← hands]
  | @and ts us e f _ _ ih ih' =>
    intro r hstart hands
    obtain ⟨ands, last, hrun, hterm⟩ := ih r hstart hands
    have hand : Reader.step { r with ands, part := .done last } .and =
        some { r with ands := some (conjoin ands last), part := .start } := rfl
    refine ⟨some e, f, ?_, rfl⟩
    rw [Reader.run_append, hrun, Option.bind_some, Reader.run_cons, hand, Option.bind_some, hterm]
    exact ih' _ rfl
  | term _ ih =>
    intro r hstart hands hors
    obtain ⟨ands, last, hrun, hterm⟩ := ih r hstart hands
    refine ⟨none, ands, last, ?_, hterm⟩
    rw [hrun, ← hors]
  | @or ts us e f _ _ ih ih' =>
    intro r hstart hands hors
    obtain ⟨ors, ands, last, hrun, hcondition⟩ := ih r hstart hands hors
    have hor : Reader.step { r with ors, ands, part := .done last } .or =
        some { r with ors := some (disjoin ors (conjoin ands last)), ands := none,
                      part := .start } := rfl
    obtain ⟨ands', last', hrun', hterm⟩ :=
      ih' { r with ors := some e, ands := none, part := .start } rfl rfl
    refine ⟨some e, ands', last', ?_, by rw [hterm]; rfl⟩
    rw [Reader.run_append, hrun, Option.bind_some, Reader.run_cons, hor, Option.bind_some,
      hcondition, hrun']

/-- No tokens are derived in two ways. -/
theorem Derives.unique {ts : List Token} {e f : SearchCondition Nat}
    (he : Derives .condition ts e) (hf : Derives .condition ts f) : f = e := by
  obtain ⟨ors, ands, last, hrun, hall⟩ := he.reads ⟨[], none, none, .start⟩ rfl rfl rfl
  obtain ⟨ors', ands', last', hrun', hall'⟩ := hf.reads ⟨[], none, none, .start⟩ rfl rfl rfl
  rw [hrun] at hrun'
  obtain ⟨rfl, rfl, hpart⟩ : ors = ors' ∧ ands = ands' ∧ Part.done last = .done last' := by
    simpa using hrun'
  obtain rfl := Part.done.inj hpart
  rw [← hall, ← hall']

end SearchCondition

end PagedQuery
