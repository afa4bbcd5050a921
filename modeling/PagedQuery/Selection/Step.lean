import PagedQuery.Selection

/-! Steps of narrowing and ordering a selection, as values. -/

namespace PagedQuery

/-- One step: a condition, which an absent value may leave out, or a sort order. -/
inductive SelectionStep where
  | compared (field : String) (op : Comparison) (value : Option Value)
  | equalTo (field : String) (value : Option Value)
  | equalOrNull (field : String) (value : Option Value)
  | among (field : String) (values : List Value)
  | holding (field : String) (text : Option String)
  | searching (text : Option String) (fields : List String)
  | restrict (c : Condition)
  | orderedBy (keys : List SortKey)
deriving Inhabited

namespace Selection

def step (s : Selection) : SelectionStep → Selection
  | .compared field op value => s.compared field op value
  | .equalTo field value => s.equalTo field value
  | .equalOrNull field value => s.equalOrNull field value
  | .among field values => s.among field values
  | .holding field text => s.holding field text
  | .searching text fields => s.searching text fields
  | .restrict c => s.restrict c
  | .orderedBy keys => s.orderedBy keys

def steps (s : Selection) (asked : List SelectionStep) : Selection := asked.foldl step s

@[simp] theorem steps_nil (s : Selection) : s.steps [] = s := rfl

@[simp] theorem steps_cons (s : Selection) (next : SelectionStep) (asked : List SelectionStep) :
    s.steps (next :: asked) = (s.step next).steps asked := rfl

theorem steps_append (s : Selection) (first last : List SelectionStep) :
    s.steps (first ++ last) = (s.steps first).steps last :=
  List.foldl_append

end Selection

end PagedQuery
