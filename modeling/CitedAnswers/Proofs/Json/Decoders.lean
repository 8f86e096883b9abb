import CitedAnswers.Proofs.Json.Mending

/-! # What is decoded

A decoder decodes trees to values (`Decodes`) if it comes to the value of what is laid out, gives
nothing but such values, and is not led astray by ill-formed octets.  All shapes do.  What such a
decoder makes of a text is settled by what the text lays out (`Decodes.run_eq_ok_iff`).
-/

namespace CitedAnswers.Json

open CitedAnswers.Text (Symbol symbols)

variable {α σ : Type}

structure Decodes (d : Decoder α) (value : Nat → Tree → Option α) : Prop where
  reads : ∀ depth, Reads Lays (d depth) (value depth)
  sound : ∀ depth, Sound Lays (d depth) (value depth)
  keeps : ∀ depth, Keeps (d depth)

/-- A text is decoded to a value exactly if it lays out a tree that has the value. -/
theorem Decodes.run_eq_ok_iff {d : Decoder α} {value : Nat → Tree → Option α}
    (decodes : Decodes d value) {text : List Symbol} {a : α} :
    d.run text = .ok a ↔ ∃ tree, IsLayout text tree ∧ value depthLimit tree = some a :=
  readDocument_eq_ok_iff_isLayout (decodes.reads depthLimit) (decodes.sound depthLimit)
    (decodes.keeps depthLimit)

/-! ## Shapes -/

theorem decodes_value : Decodes Decoder.value Tree.value? :=
  ⟨reads_value, sound_value, keeps_readValue⟩

theorem decodes_string : Decodes Decoder.string fun _ => Tree.text? :=
  ⟨reads_string, sound_string, keeps_string⟩

theorem decodes_single : Decodes Decoder.single fun _ => Tree.single? :=
  ⟨reads_single, sound_single, keeps_single⟩

theorem Decodes.list {d : Decoder α} {value : Nat → Tree → Option α} (decodes : Decodes d value) :
    Decodes (Decoder.list d) (Tree.list? value) :=
  ⟨reads_list decodes.reads, sound_list decodes.sound, keeps_list decodes.keeps⟩

theorem reads_nullable {d : Decoder α} {depth : Nat} {value : Tree → Option α}
    (reads : Reads Lays (d depth) value) :
    Reads Lays (Decoder.nullable d depth) (Tree.nullable? value) := by
  intro gap text tree left blank lays stops
  -- The first character tells null from all other values.
  obtain ⟨c, rest, same, lexeme, opener⟩ := opener_of_lays lays
  have entered (noNull : c ≠ 'n') :
      Decoder.nullable d depth (symbols gap ++ (symbols text ++ left)) =
        mapResult some (d depth (symbols text ++ left)) := by
    simp [Decoder.nullable, same, skipSpace_before blank lexeme, noNull]
  have behind (noNull : c ≠ 'n') : Came
      (Decoder.nullable d depth (symbols gap ++ (symbols text ++ left)))
      ((value tree).map some) left :=
    came_of_eq (entered noNull) ((reads.here lays stops).mapResult some)
  cases lays with
  | null =>
    refine .inl ⟨none, rfl, ?_⟩
    simp [Decoder.nullable, skipSpace_before blank (c := 'n') rfl, literal, readLiteral]
  | true | false | number | string | array | object =>
    refine behind ?_
    rintro rfl
    simp [Tree.openers] at opener

theorem Decodes.nullable {d : Decoder α} {value : Nat → Tree → Option α}
    (decodes : Decodes d value) (noNull : ∀ depth, value depth .null = none) :
    Decodes (Decoder.nullable d) fun depth => Tree.nullable? (value depth) :=
  ⟨fun depth => reads_nullable (decodes.reads depth),
    fun depth => sound_nullable (noNull depth) (decodes.sound depth),
    fun depth => keeps_nullable (decodes.keeps depth)⟩

theorem decodes_record {r : Record σ α} {take : String → (depth : Nat) → σ → Tree → Option σ}
    (fields : ∀ f ∈ r.fields, ∀ gathered,
      Decodes (fun depth => f.read depth gathered) fun depth => take f.name depth gathered) :
    Decodes r.decoder (r.value? take) :=
  ⟨Record.reads_record fun f member depth gathered => (fields f member gathered).reads depth,
    Record.sound_record fun f member depth gathered => (fields f member gathered).sound depth,
    Record.keeps_record fun f member depth gathered => (fields f member gathered).keeps depth⟩

theorem Decodes.map {β : Type} {d : Decoder α} {value : Nat → Tree → Option α}
    (decodes : Decodes d value) (f : α → β) :
    Decodes (fun depth text => mapResult f (d depth text))
      fun depth tree => (value depth tree).map f :=
  ⟨fun depth => (decodes.reads depth).map f, fun depth => (decodes.sound depth).map f,
    fun depth => (decodes.keeps depth).map f⟩

end CitedAnswers.Json
