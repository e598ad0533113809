import TemplateSyntax.Reading.Paths

/-!
# The furthest places

A text that cannot be read fails at the furthest place any reading reaches.
`Stop.furthest` is taken from the list of all places; here it is described by
which places and terminals belong to it, so that two lists with the same
furthest places give the same failure.
-/

namespace TemplateSyntax

namespace Stop

variable {stops : List Stop}

@[simp] theorem furthest_left (stops : List Stop) :
    (furthest stops).left = leastLeft stops := rfl

theorem exists_leastLeft (nonempty : stops ≠ []) :
    ∃ stop ∈ stops, stop.left = leastLeft stops := by
  have some : (stops.map left).min?.isSome = true := by
    rw [Option.isSome_iff_ne_none, ne_eq, List.min?_eq_none_iff]
    simpa using nonempty
  obtain ⟨least, found⟩ := Option.isSome_iff_exists.mp some
  have member := (List.min?_eq_some_iff.mp found).1
  obtain ⟨stop, stopMember, leftEq⟩ := List.mem_map.mp member
  refine ⟨stop, stopMember, ?_⟩
  rw [leastLeft, found, Option.getD_some, leftEq]

theorem leastLeft_le {stop : Stop} (member : stop ∈ stops) :
    leastLeft stops ≤ stop.left := by
  have leftMember : stop.left ∈ stops.map left := List.mem_map_of_mem member
  cases found : (stops.map left).min? with
  | none =>
      rw [List.min?_eq_none_iff] at found
      rw [found] at leftMember
      cases leftMember
  | some least =>
      rw [leastLeft, found, Option.getD_some]
      exact (List.min?_eq_some_iff.mp found).2 _ leftMember

/-- A place of the list behind which no other lies has the least text left. -/
theorem leastLeft_eq {stop : Stop} (member : stop ∈ stops)
    (least : ∀ other ∈ stops, stop.left ≤ other.left) :
    leastLeft stops = stop.left := by
  obtain ⟨other, otherMember, otherEq⟩ :=
    exists_leastLeft (List.ne_nil_of_mem member)
  apply Nat.le_antisymm (leastLeft_le member)
  rw [← otherEq]
  exact least other otherMember

theorem mem_expected_furthest {terminal : Terminal} :
    terminal ∈ (furthest stops).expected ↔
      ∃ stop ∈ stops, stop.left = leastLeft stops ∧
        terminal ∈ stop.expected := by
  simp only [furthest, List.mem_flatMap, List.mem_filter, decide_eq_true_eq,
    and_assoc]

end Stop

namespace Language

variable {σ α : Type} {language : Language σ α} {triggers : Triggers}
  {state : σ} {text : List Char}

theorem start_mem_stops :
    ⟨text.length, language.expected state⟩ ∈
      language.stops triggers state text :=
  mem_stops_iff.mpr ⟨[], text, state, .nil text, .nil state, rfl⟩

theorem leastLeft_le_length :
    Stop.leastLeft (language.stops triggers state text) ≤ text.length :=
  Stop.leastLeft_le start_mem_stops

end Language

end TemplateSyntax
