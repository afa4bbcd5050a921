import PagedQuery.Proofs.Document.Listing
import PagedQuery.Proofs.Text.Reading

/-! A table as a server of its own: it reads the window that a statement ends with. -/

namespace PagedQuery

/-- The limit and the offset that a statement ends with, each behind its keyword. -/
def windowAtEnd? (sql : String) : Option (Nat × Nat) :=
  match (Text.split ' ' sql.toList).reverse with
  | offset :: second :: limit :: first :: _ =>
    if first = "LIMIT".toList ∧ second = "OFFSET".toList then
      (Text.readDigits? limit).bind fun l => (Text.readDigits? offset).map fun o => (l, o)
    else none
  | _ => none

theorem windowAtEnd?_append (t : String) {limit offset : Int64} (hl : 0 ≤ limit)
    (ho : 0 ≤ offset) :
    windowAtEnd? (t ++ (" LIMIT " ++ toString limit ++ " OFFSET " ++ toString offset)) =
      some (limit.toInt.toNat, offset.toInt.toNat) := by
  have hnumber : ∀ n : Int64, 0 ≤ n → (toString n).toList = Nat.toDigits 10 n.toInt.toNat := by
    intro n hn
    rw [Int64.le_iff_toInt_le, Int64.toInt_zero] at hn
    obtain ⟨m, hm⟩ := Int.eq_ofNat_of_zero_le hn
    show n.toInt.repr.toList = _
    rw [hm]
    exact Nat.toList_repr
  have hblank : ∀ n : Nat, ' ' ∉ Nat.toDigits 10 n := fun n hmem => by
    simpa using Text.isDigit_toDigits n ' ' hmem
  have htext : (t ++ (" LIMIT " ++ toString limit ++ " OFFSET " ++ toString offset)).toList =
      t.toList ++ ' ' :: ("LIMIT".toList ++ ' ' :: (Nat.toDigits 10 limit.toInt.toNat ++ ' ' ::
        ("OFFSET".toList ++ ' ' :: Nat.toDigits 10 offset.toInt.toNat))) := by
    rw [← hnumber _ hl, ← hnumber _ ho]
    simp
  have hsplit : (Text.split ' '
      (t ++ (" LIMIT " ++ toString limit ++ " OFFSET " ++ toString offset)).toList).reverse =
        Nat.toDigits 10 offset.toInt.toNat :: "OFFSET".toList ::
          Nat.toDigits 10 limit.toInt.toNat :: "LIMIT".toList ::
            (Text.split ' ' t.toList).reverse := by
    have hlimit : Text.split ' ' "LIMIT".toList = ["LIMIT".toList] := rfl
    have hoffset : Text.split ' ' "OFFSET".toList = ["OFFSET".toList] := rfl
    simp only [htext, Text.split_append_cons, Text.split_of_not_mem (hblank _), hlimit, hoffset,
      List.reverse_append, List.singleton_append]
    rfl
  rw [windowAtEnd?, hsplit]
  simp only [and_self, if_true, Text.readDigits?_toDigits, Option.bind_some, Option.map_some]

/-- The reply of a table to a statement: the rows of the window that the statement ends with, and
without a window the number of all rows. -/
def tableReply (columns : List String) (cells : List (List Cell)) (sql : String) : ResultSet :=
  match windowAtEnd? sql with
  | some (limit, offset) => .ofRows columns ((cells.drop offset).take limit)
  | none => .ofRows ["count"] [[some (.bigint (Int64.ofNat cells.length))]]

/-- A table as a server that counts the statements. -/
def tableAnswer (columns : List String) (cells : List (List Cell)) (asked : Nat) (s : Statement) :
    Reply × Nat :=
  (.ok (tableReply columns cells s.sql), asked + 1)

/-- A table answers every selection whose count does not end in a window. -/
theorem answers_table (columns : List String) (cells : List (List Cell)) {s : Selection}
    (h : windowAtEnd? s.countQuery.sql = none) :
    Answers (tableAnswer columns cells) s (ResultSet.ofRows columns cells).rows where
  count := fun asked => by
    have hlength : (ResultSet.ofRows columns cells).rows.length = cells.length :=
      List.length_map _
    refine ⟨tableReply columns cells s.countQuery.sql,
      ⟨["count"], [some (.bigint (Int64.ofNat cells.length))]⟩, [], rfl, ?_, ?_⟩
    · rw [tableReply, h]
      rfl
    · rw [hlength]
      rfl
  window := fun asked limit offset hl ho => by
    refine ⟨_, rfl, ?_⟩
    have hlimit : (0 : Int64) ≤ limit := Int64.le_of_lt hl
    have hwindow := windowAtEnd?_append s.rowsQuery.sql hlimit ho
    show (tableReply columns cells (s.rowsQuery.sql ++
      (" LIMIT " ++ toString limit ++ " OFFSET " ++ toString offset))).rows = _
    rw [tableReply, hwindow]
    show ((cells.drop offset.toInt.toNat).take limit.toInt.toNat).map (Row.mk columns) =
      ((cells.map (Row.mk columns)).drop offset.toInt.toNat).take limit.toInt.toNat
    rw [List.map_take, List.map_drop]

theorem OrderedMap.values_insert_empty {α : Type} (key : String) (value : α) :
    (OrderedMap.empty.insert key value).values = [value] := by
  simp [insert, empty, values, toList]

/-- The count of all documents does not end in a window. -/
theorem Document.windowAtEnd?_countQuery (bounds : PageBounds) :
    windowAtEnd? (Store.listed (({} : PageRequest).bounded bounds) {}).countQuery.sql = none := by
  have hjoins : Document.projection.joins.values = [⟨.left, "public", "categories", "c",
      "c.id = d.category_id", OrderedMap.empty.slot (α := Join) "c"⟩] :=
    OrderedMap.values_insert_empty "c" _
  have hfrom : Document.projection.fromClause =
      "public.documents d LEFT JOIN public.categories c ON c.id = d.category_id" := by
    rw [Projection.fromClause, hjoins]
    decide +kernel
  have hsql : (Store.listed (({} : PageRequest).bounded bounds) {}).countQuery.sql =
      "SELECT COUNT(*) FROM " ++ Document.projection.fromClause ++ "" := rfl
  have htext : (Store.listed (({} : PageRequest).bounded bounds) {}).countQuery.sql.toList =
      "SELECT COUNT(*) FROM ".toList ++
        "public.documents d LEFT JOIN public.categories c ON c.id = d.category_id".toList := by
    rw [hsql, hfrom, String.append_empty, String.toList_append]
  rw [windowAtEnd?, htext]
  decide

end PagedQuery
