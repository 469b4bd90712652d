import TrustZone.Lib.Bytes

/-!
# MQTT topic filters

Which topics a topic filter matches, level by level. A topic that starts with `$` is matched by no filter
that starts with a wildcard.

* `topicMatches_exact`: a filter without wildcards matches itself and nothing else.
-/

namespace Lib

/-- What is between the slashes of a topic or a filter. -/
def levels (topic : List UInt8) : List (List UInt8) := topic.splitOn 0x2F

/-- `+`: any one level. -/
def singleLevel : List UInt8 := [0x2B]

/-- `#`: all further levels, or none. -/
def multiLevel : List UInt8 := [0x23]

/-- The levels of a filter match those of a topic. -/
def levelsMatch : List (List UInt8) → List (List UInt8) → Bool
  | topic, [] => topic.isEmpty
  | topic, f :: fs =>
    if f = multiLevel ∧ fs = [] then true
    else
      match topic with
      | [] => false
      | t :: ts => (f = singleLevel ∨ t = f) && levelsMatch ts fs

/-- A filter matches a topic. -/
def topicMatches (topic filter : List UInt8) : Bool :=
  !(topic.head? = some 0x24 ∧ (filter.head? = some 0x2B ∨ filter.head? = some 0x23)) &&
    levelsMatch (levels topic) (levels filter)

theorem levels_cons {level : List UInt8} (h : 0x2F ∉ level) (rest : List UInt8) :
    levels (level ++ 0x2F :: rest) = level :: levels rest :=
  List.splitOn_append_cons_self_of_not_mem h rest

theorem levels_inj {topic topic' : List UInt8} (h : levels topic = levels topic') :
    topic = topic' := by
  have hinv := congrArg ([0x2F].intercalate ·) h
  simpa [levels] using hinv

/-- A level that is no wildcard matches itself. -/
theorem levelsMatch_cons {f : List UInt8} (hs : f ≠ singleLevel) (hm : f ≠ multiLevel)
    (t : List UInt8) (ts fs : List (List UInt8)) :
    levelsMatch (t :: ts) (f :: fs) = (decide (t = f) && levelsMatch ts fs) := by
  rw [levelsMatch, if_neg fun h => hm h.1]
  simp [hs]

/-- A `#` matches any levels. -/
theorem levelsMatch_multi (ts : List (List UInt8)) : levelsMatch ts [multiLevel] = true := by
  cases ts <;> simp [levelsMatch]

/-- Levels without wildcards match only themselves. -/
theorem levelsMatch_exact {fs : List (List UInt8)}
    (hfs : ∀ f ∈ fs, f ≠ singleLevel ∧ f ≠ multiLevel) (ts : List (List UInt8)) :
    levelsMatch ts fs = true ↔ ts = fs := by
  induction fs generalizing ts with
  | nil => simp [levelsMatch]
  | cons f fs ih =>
    obtain ⟨hs, hm⟩ := hfs f List.mem_cons_self
    cases ts with
    | nil => simp [levelsMatch, hm]
    | cons t ts =>
      rw [levelsMatch_cons hs hm, Bool.and_eq_true, decide_eq_true_iff,
        ih fun f hf => hfs f (List.mem_cons_of_mem _ hf), List.cons.injEq]

/-- The bytes of a topic are in its levels. -/
theorem mem_of_mem_level {topic level : List UInt8} {b : UInt8} (hl : level ∈ levels topic)
    (hb : b ∈ level) : b ∈ topic := by
  have hinv : [0x2F].intercalate (levels topic) = topic := List.intercalate_splitOn 0x2F
  rw [← hinv]
  generalize levels topic = ls at hl
  induction ls with
  | nil => cases hl
  | cons l ls ih =>
    by_cases hls : ls = []
    · subst hls
      rw [List.mem_singleton.1 hl] at hb
      simpa using hb
    · rw [List.intercalate_cons_of_ne_nil hls, List.mem_append]
      obtain rfl | hl := List.mem_cons.1 hl
      · exact .inl (List.mem_append_left _ hb)
      · exact .inr (ih hl)

/-- **A filter without wildcards** matches itself and nothing else. -/
theorem topicMatches_exact {filter : List UInt8} (hs : 0x2B ∉ filter) (hm : 0x23 ∉ filter)
    (topic : List UInt8) : topicMatches topic filter = true ↔ topic = filter := by
  have hhead : ¬(filter.head? = some 0x2B ∨ filter.head? = some 0x23) := by
    intro h
    obtain h | h := h
    · exact hs (List.mem_of_mem_head? h)
    · exact hm (List.mem_of_mem_head? h)
  have hlevels : ∀ f ∈ levels filter, f ≠ singleLevel ∧ f ≠ multiLevel := by
    intro f hf
    constructor
    · intro h
      subst h
      exact hs (mem_of_mem_level hf List.mem_cons_self)
    · intro h
      subst h
      exact hm (mem_of_mem_level hf List.mem_cons_self)
  unfold topicMatches
  rw [decide_eq_false fun h => hhead h.2, Bool.not_false, Bool.true_and, levelsMatch_exact hlevels]
  exact ⟨levels_inj, fun h => h ▸ rfl⟩

end Lib
