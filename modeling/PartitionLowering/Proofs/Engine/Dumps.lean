import PartitionLowering.Proofs.Engine.Payloads
import PartitionLowering.Proofs.Text.Atoms

/-!
What a dump tells of a model.  Two models have one dump exactly when they show alike
(`Model.dump_eq_iff`): their nodes agree one by one, but for the bytes of constants, the pad flag of
average pools and what is lost when the bounds of a clamp are written out, and their parameters and
results are the same.
-/

set_option autoImplicit false

namespace PartitionLowering

/-! ## Names and labels -/

theorem ElementType.ofName?_name (type : ElementType) : ofName? type.name = some type := by
  cases type <;> rfl

theorem legible_elementType : Legible ElementType.name where
  atom type := by cases type <;> simp [Atom, isStop, ElementType.name]
  injective type type' same := by
    have read : ElementType.ofName? type.name = ElementType.ofName? type'.name := by rw [same]
    rwa [ElementType.ofName?_name, ElementType.ofName?_name, Option.some.injEq] at read

theorem legible_padMode : Legible PadMode.label where
  atom mode := by cases mode <;> simp [Atom, isStop, PadMode.label]
  injective mode mode' same := by cases mode <;> cases mode' <;> simp [PadMode.label] at same ⊢

theorem legible_coordinateMode : Legible CoordinateMode.label where
  atom mode := by cases mode <;> simp [Atom, isStop, CoordinateMode.label]
  injective mode mode' same := by
    cases mode <;> cases mode' <;> simp [CoordinateMode.label] at same ⊢

theorem legible_id : Legible fun id : NodeId => "%" ++ toString id where
  atom id := by
    rw [String.toList_append]
    exact Atom.append (by simp [Atom, isStop]) (legible_nat.atom id)
  injective id id' same := legible_nat.injective ((String.append_right_inj "%").1 same)

theorem id_visible (id : NodeId) : "%" ++ toString id ≠ "" := by
  simp [String.append_eq_empty_iff]

theorem Op.atom_name (op : Op) : Atom op.name.toList := by
  cases op <;> simp [Atom, isStop, Op.name]

/-! ## Telling texts apart

Each lemma takes one part off the front of two texts that are equal as a whole. -/

section Separation

variable {rest rest' : List Char}

/-- The closing bracket ends a listing, whatever follows. -/
theorem natListing_append {values values' : List Nat}
    (same : (natListing values).toList ++ rest = (natListing values').toList ++ rest') :
    values = values' ∧ rest = rest' := by
  simp only [natListing, bracketed, String.toList_append, List.append_assoc] at same
  obtain ⟨rfl, later⟩ := legible_nat.listing_append (List.append_cancel_left same) nat_visible
    (closes_cons rfl (by decide) rest) (closes_cons rfl (by decide) rest')
  exact ⟨rfl, (List.cons.inj later).2⟩

theorem stops_natListing (values : List Nat) : Stops ((natListing values).toList ++ rest) := by
  simp only [natListing, bracketed, String.toList_append, List.append_assoc]
  exact stops_cons rfl _

theorem Spatial.text_append {extents extents' : Spatial}
    (same : extents.text.toList ++ rest = extents'.text.toList ++ rest') :
    extents = extents' ∧ rest = rest' := by
  obtain ⟨lists, rests⟩ := natListing_append same
  obtain ⟨height, width⟩ := extents
  obtain ⟨height', width'⟩ := extents'
  simp only [Spatial.toList, List.cons.injEq, and_true] at lists
  obtain ⟨rfl, rfl⟩ := lists
  exact ⟨rfl, rests⟩

/-- An attribute that stands alone between its key and the closing bracket. -/
theorem Legible.attribute_append {α : Type} {write : α → String} (legible : Legible write)
    {key : List Char} {value value' : α}
    (same : key ++ ((write value).toList ++ ']' :: rest) =
      key ++ ((write value').toList ++ ']' :: rest')) : value = value' ∧ rest = rest' := by
  obtain ⟨values, later⟩ := legible.append (List.append_cancel_left same) (stops_cons rfl rest)
    (stops_cons rfl rest')
  exact ⟨values, (List.cons.inj later).2⟩

theorem Op.convSummary_append {attributes attributes' : ConvAttributes}
    (same : (Op.convSummary attributes).toList ++ rest =
      (Op.convSummary attributes').toList ++ rest')
    (stops : Stops rest) (stops' : Stops rest') : attributes = attributes' ∧ rest = rest' := by
  obtain ⟨strides, dilations, padMode⟩ := attributes
  obtain ⟨strides', dilations', padMode'⟩ := attributes'
  simp only [Op.convSummary, String.toList_append, List.append_assoc] at same
  obtain ⟨rfl, later⟩ := Spatial.text_append (List.append_cancel_left same)
  obtain ⟨rfl, last⟩ := Spatial.text_append (List.append_cancel_left later)
  obtain ⟨rfl, rests⟩ := legible_padMode.append (List.append_cancel_left last) stops stops'
  exact ⟨rfl, rests⟩

theorem Op.poolSummary_append {attributes attributes' : PoolAttributes}
    (same : (Op.poolSummary attributes).toList ++ rest =
      (Op.poolSummary attributes').toList ++ rest')
    (stops : Stops rest) (stops' : Stops rest') : attributes = attributes' ∧ rest = rest' := by
  obtain ⟨strides, kernel, padMode⟩ := attributes
  obtain ⟨strides', kernel', padMode'⟩ := attributes'
  simp only [Op.poolSummary, String.toList_append, List.append_assoc] at same
  obtain ⟨rfl, later⟩ := Spatial.text_append (List.append_cancel_left same)
  obtain ⟨rfl, last⟩ := Spatial.text_append (List.append_cancel_left later)
  obtain ⟨rfl, rests⟩ := legible_padMode.append (List.append_cancel_left last) stops stops'
  exact ⟨rfl, rests⟩

/-- Of two operations of one name, the summaries up to the bracket behind them tell all that shows. -/
theorem Op.summary_append {op other : Op} (names : op.name = other.name)
    (same : op.summary.toList ++ ']' :: rest = other.summary.toList ++ ']' :: rest') :
    op.ShownAlike other ∧ rest = rest' := by
  have bracket : ∀ rest : List Char, Stops (']' :: rest) := stops_cons rfl
  have ended : ∀ {rest rest' : List Char}, ']' :: rest = ']' :: rest' → rest = rest' :=
    fun same => (List.cons.inj same).2
  -- operations of two constructors differ in their names
  cases op <;> cases other <;> simp only [Op.name, String.reduceEq] at names <;>
    simp only [Op.summary, String.toList_append, String.toList_empty, List.nil_append,
      List.append_assoc] at same
  case constant.constant payload payload' =>
    obtain ⟨lengths, later⟩ := legible_nat.append same (stops_cons rfl _) (stops_cons rfl _)
    exact ⟨.constant lengths, ended (List.append_cancel_left later)⟩
  case reshape.reshape =>
    obtain ⟨rfl, rests⟩ := legible_bool.attribute_append same
    exact ⟨.same _, rests⟩
  case convolution.convolution | groupConvolution.groupConvolution |
      convolutionBackpropData.convolutionBackpropData =>
    obtain ⟨rfl, later⟩ := Op.convSummary_append same (bracket _) (bracket _)
    exact ⟨.same _, ended later⟩
  case maxPool.maxPool =>
    obtain ⟨rfl, later⟩ := Op.poolSummary_append same (bracket _) (bracket _)
    exact ⟨.same _, ended later⟩
  case avgPool.avgPool =>
    obtain ⟨rfl, later⟩ := Op.poolSummary_append same (bracket _) (bracket _)
    exact ⟨.avgPool _ _ _, ended later⟩
  case concat.concat =>
    obtain ⟨rfl, rests⟩ := legible_int.attribute_append same
    exact ⟨.same _, rests⟩
  case softmax.softmax =>
    obtain ⟨rfl, rests⟩ := legible_nat.attribute_append same
    exact ⟨.same _, rests⟩
  case reduceMean.reduceMean =>
    obtain ⟨rfl, rests⟩ := legible_bool.attribute_append same
    exact ⟨.same _, rests⟩
  case interpolate.interpolate =>
    obtain ⟨rfl, rests⟩ := legible_coordinateMode.attribute_append same
    exact ⟨.same _, rests⟩
  case convert.convert =>
    obtain ⟨rfl, rests⟩ := legible_elementType.attribute_append same
    exact ⟨.same _, rests⟩
  case clamp.clamp min max min' max' =>
    obtain ⟨least, later⟩ := atom_append (List.append_cancel_left same) (Style.atom_text _ _ _)
      (Style.atom_text _ _ _) (stops_cons rfl _) (stops_cons rfl _)
    obtain ⟨greatest, last⟩ := atom_append (List.append_cancel_left later)
      (Style.atom_text _ _ _) (Style.atom_text _ _ _) (bracket _) (bracket _)
    exact ⟨.clamp (String.toList_inj.1 least) (String.toList_inj.1 greatest), ended last⟩
  all_goals exact ⟨.same _, ended same⟩

/-- Attributes that are left out and attributes between brackets come to one form: a summary, perhaps
empty, in front of its closing bracket. -/
theorem Node.attributeText_append {node other : Node}
    (same : node.attributeText.toList ++ '(' :: rest = other.attributeText.toList ++ '(' :: rest') :
    node.op.summary.toList ++ ']' :: '(' :: rest =
      other.op.summary.toList ++ ']' :: '(' :: rest' := by
  rw [Node.attributeText, Node.attributeText] at same
  by_cases plain : node.op.summary.isEmpty <;> by_cases plain' : other.op.summary.isEmpty <;>
    simp only [plain, plain', if_true, if_false, Bool.false_eq_true, String.toList_append,
      String.toList_empty, List.nil_append, List.append_assoc] at same
  · rw [String.isEmpty_iff.1 plain, String.isEmpty_iff.1 plain', same]
  · simp at same
  · simp at same
  · simpa using same

theorem Node.stops_attributeText (node : Node) :
    Stops (node.attributeText.toList ++ '(' :: rest) := by
  rw [Node.attributeText]
  split
  · exact stops_cons rfl rest
  · simp only [String.toList_append, List.append_assoc]
    exact stops_cons rfl _

theorem Node.line_append {node other : Node}
    (same : node.line.toList ++ rest = other.line.toList ++ rest') :
    node.ShownAlike other ∧ rest = rest' := by
  simp only [Node.line, String.toList_append, List.append_assoc] at same
  obtain ⟨id, behindId⟩ :=
    legible_nat.append (List.append_cancel_left same) (stops_cons rfl _) (stops_cons rfl _)
  obtain ⟨name, behindName⟩ := atom_append (List.append_cancel_left behindId) (Op.atom_name _)
    (Op.atom_name _) (Node.stops_attributeText _) (Node.stops_attributeText _)
  obtain ⟨op, behindOp⟩ :=
    Op.summary_append (String.toList_inj.1 name) (Node.attributeText_append behindName)
  obtain ⟨inputs, behindInputs⟩ := legible_id.listing_append (List.cons.inj behindOp).2 id_visible
    (closes_cons rfl (by decide) _) (closes_cons rfl (by decide) _)
  obtain ⟨elementType, behindType⟩ := legible_elementType.append
    (List.append_cancel_left behindInputs) (stops_natListing _) (stops_natListing _)
  obtain ⟨shape, rests⟩ := natListing_append behindType
  exact ⟨⟨id, op, inputs, elementType, shape⟩, rests⟩

theorem Node.exists_toList_line (node : Node) : ∃ line, node.line.toList = '%' :: line := by
  simp only [Node.line, String.toList_append, List.append_assoc]
  exact ⟨_, rfl⟩

/-- The lines of the nodes end where a line does not begin as theirs do. -/
theorem lines_append {nodes nodes' : List Node} {c c' : Char} (other : c ≠ '%') (other' : c' ≠ '%')
    (same : nodes.flatMap (fun node => node.line.toList ++ ['\n']) ++ c :: rest =
      nodes'.flatMap (fun node => node.line.toList ++ ['\n']) ++ c' :: rest') :
    List.Forall₂ Node.ShownAlike nodes nodes' ∧ c :: rest = c' :: rest' := by
  have differ : ∀ {c : Char} (node : Node) {rest later : List Char}, c ≠ '%' →
      c :: rest ≠ node.line.toList ++ later := by
    intro c node rest later other same
    obtain ⟨line, begun⟩ := node.exists_toList_line
    rw [begun] at same
    exact other (List.cons.inj same).1
  induction nodes generalizing nodes' with
  | nil =>
    cases nodes' with
    | nil => exact ⟨.nil, same⟩
    | cons node' nodes' =>
      simp only [List.flatMap_cons, List.append_assoc] at same
      exact absurd same (differ node' other)
  | cons node nodes ih =>
    cases nodes' with
    | nil =>
      simp only [List.flatMap_cons, List.append_assoc] at same
      exact absurd same.symm (differ node other')
    | cons node' nodes' =>
      simp only [List.flatMap_cons, List.append_assoc] at same
      obtain ⟨alike, later⟩ := Node.line_append same
      obtain ⟨alikes, rests⟩ := ih (List.append_cancel_left later)
      exact ⟨.cons alike alikes, rests⟩

end Separation

theorem Model.toList_dump (model : Model) :
    model.dump.toList = model.graph.nodes.flatMap (fun node => node.line.toList ++ ['\n']) ++
      ("parameters: ".toList ++ ((idListing model.parameters).toList ++ '\n' ::
        ("results: ".toList ++ ((idListing model.results).toList ++ ['\n'])))) := by
  simp [Model.dump, Model.lines, String.toList_join, List.flatMap_map]

/-- A dump identifies its model up to what it leaves out of the operations. -/
theorem Model.dump_eq_iff (model other : Model) :
    model.dump = other.dump ↔ model.ShownAlike other := by
  refine ⟨fun same => ?_, ShownAlike.dump⟩
  have texts : model.dump.toList = other.dump.toList := by rw [same]
  rw [toList_dump, toList_dump] at texts
  obtain ⟨nodes, bindings⟩ := lines_append (by decide) (by decide) texts
  change "parameters: ".toList ++ _ = "parameters: ".toList ++ _ at bindings
  obtain ⟨parameters, behindParameters⟩ := legible_id.listing_append
    (List.append_cancel_left bindings) id_visible (closes_cons rfl (by decide) _)
    (closes_cons rfl (by decide) _)
  have lastLine := (List.cons.inj behindParameters).2
  obtain ⟨results, _⟩ := legible_id.listing_append (List.append_cancel_left lastLine) id_visible
    (closes_cons rfl (by decide) _) (closes_cons rfl (by decide) _)
  exact ⟨nodes, parameters, results⟩

end PartitionLowering
