import DialogKit.Proofs.Compile.Parallel

/-!
# Definitions up to their display texts

A formatter turns some texts of a definition into display texts: titles, labels, messages, the name,
lore and description of items, the display of choices, and what buttons say. `Formatted` relates a
definition with plain texts to one where each of these texts stays or is formatted, and nothing else
changes, at any depth. So both are the same once the display texts are erased.
-/

namespace DialogKit

/-- Displays every text as it is. -/
def Formatter.plain : Formatter :=
  id

/-- A text is displayed as it is, or formatted. -/
def Formatter.MayShow (f : Formatter) (text shown : String) : Prop :=
  shown = text ∨ shown = f text

theorem Formatter.mayShow_self (f : Formatter) (text : String) : f.MayShow text text :=
  .inl rfl

theorem Formatter.mayShow_format (f : Formatter) (text : String) :
    f.MayShow (plain text) (f text) :=
  .inr rfl

/-! ## Definitions with formatted texts -/

section

variable (f : Formatter)

inductive BodyElement.Formatted : BodyElement → BodyElement → Prop where
  | message (width : UInt32) {text text' : String} : f.MayShow text text' →
      Formatted (.message text width) (.message text' width)
  | item (material : String) (amount width height : UInt32) (showTooltip showDecorations : Bool)
      {name name' description description' : Option String} {lore lore' : List String} :
      Option.Rel f.MayShow name name' → List.Forall₂ f.MayShow lore lore' →
        Option.Rel f.MayShow description description' →
        Formatted
          (.item material amount name lore width height showTooltip showDecorations description)
          (.item material amount name' lore' width height showTooltip showDecorations description')

inductive Choice.Formatted : Choice → Choice → Prop where
  | mk (value : String) (selected : Bool) {display display' : String} :
      f.MayShow display display' → Formatted ⟨value, display, selected⟩ ⟨value, display', selected⟩

inductive InputKind.Formatted : InputKind → InputKind → Prop where
  | same (kind : InputKind) : Formatted kind kind
  | singleOption (width : UInt32) (labelVisible : Bool) {choices choices' : List Choice} :
      List.Forall₂ (Choice.Formatted f) choices choices' →
        Formatted (.singleOption width labelVisible choices)
          (.singleOption width labelVisible choices')

inductive Input.Formatted : Input → Input → Prop where
  | mk (id : String) {label label' : String} {kind kind' : InputKind} : f.MayShow label label' →
      kind.Formatted f kind' → Formatted ⟨id, label, kind⟩ ⟨id, label', kind'⟩

mutual

/-- The second definition is the first one with each display text as it is or formatted, in the
dialogs that it embeds as well. -/
inductive Definition.Formatted : Definition → Definition → Prop where
  | mk (id : String) (closesOnEscape : Bool) {title title' external external' : String}
      {body body' : List BodyElement} {inputs inputs' : List Input} {layout layout' : Layout} :
      f.MayShow title title' → f.MayShow external external' →
        List.Forall₂ (BodyElement.Formatted f) body body' →
        List.Forall₂ (Input.Formatted f) inputs inputs' →
        Layout.Made Button.Formatted layout layout' →
        Definition.Formatted ⟨id, title, external, closesOnEscape, body, inputs, layout⟩
          ⟨id, title', external', closesOnEscape, body', inputs', layout'⟩

inductive Button.Formatted : Button → Button → Prop where
  | mk (width : UInt32) {text text' description description' : String}
      {action action' : Option Action} : f.MayShow text text' →
      f.MayShow description description' → Option.Rel Action.Formatted action action' →
        Button.Formatted ⟨text, description, width, action⟩ ⟨text', description', width, action'⟩

inductive Action.Formatted : Action → Action → Prop where
  | same (action : Action) : Action.Formatted action action
  | showDialog (target : String) {dialog dialog' : Definition} :
      Definition.Formatted dialog dialog' →
        Action.Formatted (.showDialog target dialog) (.showDialog target dialog')

end

theorem Button.formatted_self (button : Button) : button.Formatted f button := by
  obtain ⟨text, description, width, action⟩ := button
  apply Button.Formatted.mk width (f.mayShow_self text) (f.mayShow_self description)
  cases action with
  | none => exact .none
  | some action => exact .some (.same action)

end

/-! ## Definitions without their display texts -/

def BodyElement.erased : BodyElement → BodyElement
  | .message _ width => .message "" width
  | .item material amount name lore width height showTooltip showDecorations description =>
      .item material amount (name.map fun _ ↦ "") (lore.map fun _ ↦ "") width height showTooltip
        showDecorations (description.map fun _ ↦ "")

def Choice.erased (c : Choice) : Choice :=
  { c with display := "" }

def InputKind.erased : InputKind → InputKind
  | .singleOption width labelVisible choices =>
      .singleOption width labelVisible (choices.map Choice.erased)
  | kind => kind

def Input.erased (i : Input) : Input :=
  { i with label := "", kind := i.kind.erased }

mutual

/-- The definition, and every one embedded in it, with the empty text for each display text. -/
def Definition.erased : Definition → Definition
  | ⟨id, _, _, closesOnEscape, body, inputs, layout⟩ =>
      ⟨id, "", "", closesOnEscape, body.map BodyElement.erased, inputs.map Input.erased,
        Layout.erased layout⟩

def Layout.erased : Layout → Layout
  | .confirmation confirm cancel => .confirmation (Button.erased confirm) (Button.erased cancel)
  | .notice exit => .notice (Button.erased exit)
  | .multiAction buttons exit columns =>
      .multiAction (Button.erasedEach buttons) (Button.erasedOptional exit) columns

def Button.erasedEach : List Button → List Button
  | [] => []
  | button :: rest => Button.erased button :: Button.erasedEach rest

def Button.erasedOptional : Option Button → Option Button
  | none => none
  | some button => some (Button.erased button)

def Button.erased : Button → Button
  | ⟨_, _, width, action⟩ => ⟨"", "", width, Action.erasedOptional action⟩

def Action.erasedOptional : Option Action → Option Action
  | none => none
  | some action => some (Action.erased action)

def Action.erased : Action → Action
  | .showDialog target dialog => .showDialog target (Definition.erased dialog)
  | action => action

end

section

variable {α β : Type} {R : α → α → Prop} {g : α → β}

theorem map_eq_of_forall₂ {items items' : List α} (h : List.Forall₂ R items items')
    (hg : ∀ {a b}, R a b → g b = g a) : items'.map g = items.map g := by
  have hlift : Relator.LiftFun R Eq g g := fun _ _ hab ↦ (hg hab).symm
  have hmap : List.Forall₂ Eq (items.map g) (items'.map g) := List.rel_map hlift h
  rw [List.forall₂_eq_eq_eq] at hmap
  exact hmap.symm

theorem map_eq_of_rel {item item' : Option α} (h : Option.Rel R item item')
    (hg : ∀ {a b}, R a b → g b = g a) : item'.map g = item.map g := by
  cases h with
  | some hab => exact congrArg some (hg hab)
  | none => rfl

end

section

variable {f : Formatter}

theorem BodyElement.Formatted.erased {element element' : BodyElement}
    (h : element.Formatted f element') : element'.erased = element.erased := by
  cases h with
  | message width _ => rfl
  | item _ _ _ _ _ _ hname hlore hdescription =>
    have hname := map_eq_of_rel (g := fun _ ↦ "") hname fun _ ↦ rfl
    have hlore := map_eq_of_forall₂ (g := fun _ ↦ "") hlore fun _ ↦ rfl
    have hdescription := map_eq_of_rel (g := fun _ ↦ "") hdescription fun _ ↦ rfl
    simp only [BodyElement.erased, hname, hlore, hdescription]

theorem Choice.Formatted.erased {choice choice' : Choice} (h : choice.Formatted f choice') :
    choice'.erased = choice.erased := by
  cases h with
  | mk value selected _ => rfl

theorem InputKind.Formatted.erased {kind kind' : InputKind} (h : kind.Formatted f kind') :
    kind'.erased = kind.erased := by
  cases h with
  | same kind => rfl
  | singleOption width labelVisible hchoices =>
    simp only [InputKind.erased, map_eq_of_forall₂ hchoices Choice.Formatted.erased]

theorem Input.Formatted.erased {input input' : Input} (h : input.Formatted f input') :
    input'.erased = input.erased := by
  obtain ⟨id, _, hkind⟩ := h
  unfold Input.erased
  rw [hkind.erased]

/-! The recursion is on the plain definition. -/

mutual

theorem Definition.erased_eq : ∀ {d d' : Definition}, d.Formatted f d' → d'.erased = d.erased
  | ⟨id, title, external, closesOnEscape, body, inputs, layout⟩, d', h => by
    obtain ⟨_, _, _, _, hbody, hinputs, hlayout⟩ := h
    unfold Definition.erased
    rw [map_eq_of_forall₂ hbody BodyElement.Formatted.erased,
      map_eq_of_forall₂ hinputs Input.Formatted.erased, Layout.erased_eq hlayout]

theorem Layout.erased_eq : ∀ {layout layout' : Layout}, layout.Made (Button.Formatted f) layout' →
    layout'.erased = layout.erased
  | .confirmation confirm cancel, layout', h => by
    cases h with
    | confirmation hconfirm hcancel =>
      unfold Layout.erased
      rw [Button.erased_eq hconfirm, Button.erased_eq hcancel]
  | .notice exit, layout', h => by
    cases h with
    | notice hexit =>
      unfold Layout.erased
      rw [Button.erased_eq hexit]
  | .multiAction buttons exit columns, layout', h => by
    cases h with
    | multiAction _ _ hbuttons hexit =>
      unfold Layout.erased
      rw [Button.erasedEach_eq hbuttons, Button.erasedOptional_eq hexit]

theorem Button.erasedEach_eq : ∀ {buttons buttons' : List Button},
    List.Forall₂ (Button.Formatted f) buttons buttons' →
      Button.erasedEach buttons' = Button.erasedEach buttons
  | [], _, .nil => rfl
  | button :: rest, _, .cons hbutton hrest => by
    unfold Button.erasedEach
    rw [Button.erased_eq hbutton, Button.erasedEach_eq hrest]

theorem Button.erasedOptional_eq : ∀ {button button' : Option Button},
    Option.Rel (Button.Formatted f) button button' →
      Button.erasedOptional button' = Button.erasedOptional button
  | none, _, .none => rfl
  | some button, _, .some hbutton => by
    unfold Button.erasedOptional
    rw [Button.erased_eq hbutton]

theorem Button.erased_eq : ∀ {button button' : Button}, button.Formatted f button' →
    button'.erased = button.erased
  | ⟨text, description, width, action⟩, _, h => by
    obtain ⟨_, _, _, haction⟩ := h
    unfold Button.erased
    rw [Action.erasedOptional_eq haction]

theorem Action.erasedOptional_eq : ∀ {action action' : Option Action},
    Option.Rel (Action.Formatted f) action action' →
      Action.erasedOptional action' = Action.erasedOptional action
  | none, _, .none => rfl
  | some action, _, .some haction => by
    unfold Action.erasedOptional
    rw [Action.erased_eq haction]

theorem Action.erased_eq : ∀ {action action' : Action}, action.Formatted f action' →
    action'.erased = action.erased
  | action, _, .same _ => rfl
  | .showDialog target dialog, _, .showDialog _ hdialog => by
    unfold Action.erased
    rw [Definition.erased_eq hdialog]

end

end

end DialogKit
