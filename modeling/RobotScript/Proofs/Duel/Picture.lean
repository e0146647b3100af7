import Mathlib.Data.List.Nodup
import RobotScript.Proofs.Duel.Safety

/-!
# What a picture shows

A picture of a board is a text. Its lines are read back by `splitOn_render`, and from the lines the
characters of the positions (`glyph_eq_of_render_eq`). What a character says depends on the board: a
robot hides the tile it stands on, and the player hides the turret. On a board that was dealt
neither happens, as `Settled` says. There each character has one meaning (`glyph_eq_player_iff`,
`glyph_eq_turret_iff`, `glyph_eq_obstacle_iff`).

`render_determines` puts these together.
-/

namespace RobotScript.Duel.Board

variable {board one other : Board} {position : Position}

/-! ## Lines -/

/-- The lines of a picture, from the upper border to the lower one. -/
def lines (board : Board) : List (List Char) :=
  let bar := List.replicate board.size '─'
  let rows := (List.range board.size).map fun row => '│' :: board.rowGlyphs row ++ ['│']
  ('┌' :: bar ++ ['┐']) :: rows ++ ['└' :: bar ++ ['┘']]

/-- Lines with line breaks between them are lines with line breaks after them, up to the last
one. -/
theorem intercalate_concat (lines : List (List Char)) (last : List Char) :
    ['\n'].intercalate (lines ++ [last]) = (lines.map (· ++ ['\n'])).flatten ++ last := by
  induction lines with
  | nil => simp
  | cons line lines ih =>
    rw [List.cons_append, List.intercalate_cons_of_ne_nil (by simp), ih]
    simp

theorem toList_render (board : Board) : board.render.toList = ['\n'].intercalate board.lines := by
  rw [lines, intercalate_concat, render, String.toList_ofList]
  simp [List.map_map, Function.comp_def]

theorem glyph_ne_newline (board : Board) (position : Position) : board.glyph position ≠ '\n' := by
  unfold glyph
  repeat' split
  all_goals decide

/-- A picture has no other line breaks than those between its lines. -/
theorem newline_not_mem_lines (board : Board) : ∀ line ∈ board.lines, '\n' ∉ line := by
  have bar : '\n' ∉ List.replicate board.size '─' := by simp [List.mem_replicate]
  have glyphs : ∀ row, '\n' ∉ board.rowGlyphs row := by
    intro row member
    obtain ⟨column, -, same⟩ := List.mem_map.mp member
    exact board.glyph_ne_newline _ same
  simp [lines, or_imp, forall_and, bar, glyphs]

/-- The lines of a picture are what stands between its line breaks. -/
theorem splitOn_render (board : Board) : board.render.toList.splitOn '\n' = board.lines := by
  rw [toList_render]
  exact List.splitOn_intercalate '\n' board.newline_not_mem_lines (by simp [lines])

theorem length_lines (board : Board) : board.lines.length = board.size + 2 := by
  simp [lines]

theorem length_of_mem_lines (board : Board) :
    ∀ line ∈ board.lines, line.length = board.size + 2 := by
  simp [lines, rowGlyphs, or_imp, forall_and]

theorem getElem?_lines {row : Nat} (below : row < board.size) :
    board.lines[row + 1]? = some ('│' :: board.rowGlyphs row ++ ['│']) := by
  simp [lines, List.getElem?_append, below]

/-- Equal pictures show boards of one size, with the same characters at all positions. -/
theorem glyph_eq_of_render_eq (same : one.render = other.render) :
    one.size = other.size ∧ ∀ position, one.Inside position →
      one.glyph position = other.glyph position := by
  have lines : one.lines = other.lines := by rw [← splitOn_render, ← splitOn_render, same]
  have size : one.size = other.size := by
    have lengths := congrArg List.length lines
    rw [length_lines, length_lines] at lengths
    exact Nat.add_right_cancel lengths
  refine ⟨size, fun position inside => ?_⟩
  have row : one.rowGlyphs position.row = other.rowGlyphs position.row := by
    have here := getElem?_lines inside.1
    rw [lines, getElem?_lines (size ▸ inside.1)] at here
    simpa using here.symm
  have glyph : (one.rowGlyphs position.row)[position.column]? =
      (other.rowGlyphs position.row)[position.column]? := by
    rw [row]
  simpa [rowGlyphs, inside.2, size ▸ inside.2] using glyph

/-! ## Characters -/

/-- Both robots stand on empty tiles of the board, and not on the same one. -/
structure Settled (board : Board) : Prop extends Placed board where
  turretInside : board.Inside board.turret.place
  turretFree : board.tile? board.turret.place = some .empty

/-- What is done on a board where the robots are settled leaves them so. -/
theorem Settled.afterAll (settled : board.Settled) (deeds : List Deed) :
    (board.afterAll deeds).Settled := by
  have frames := board.frames_afterAll deeds
  have size : (board.afterAll deeds).size = board.size := by rw [frames.tiles, manned]
  refine ⟨afterAll_keeps (fun deed placed => placed.perform deed) settled.toPlaced deeds, ?_,
    ?_⟩
  · rw [frames.turret, Inside, size]
    exact settled.turretInside
  · rw [frames.turret, frames.tiles]
    exact settled.turretFree

theorem settled_of_deal {setup : Setup} {picks : Nat → List Nat}
    (dealt : deal setup picks = .ok board) :
    board.Settled := by
  have placed := placed_of_deal dealt
  obtain ⟨player, turret, obstacles, handed, rfl⟩ := exists_of_deal dealt
  have place := (places_blockAll setup.size player turret obstacles).2
  obtain ⟨inside, free⟩ := handed.free (.inr rfl)
  refine ⟨placed, ?_, ?_⟩
  · rw [place]
    exact inside
  · rw [place]
    exact free

/-- The board was dealt, and then things were done on it. -/
def Reached (board : Board) : Prop :=
  ∃ setup picks start deeds, deal setup picks = .ok start ∧ board = start.afterAll deeds

theorem Reached.settled : board.Reached → board.Settled := by
  rintro ⟨_, _, _, deeds, dealt, rfl⟩
  exact (settled_of_deal dealt).afterAll deeds

theorem glyph_eq_player_iff : board.glyph position = 'R' ↔ position = board.player.place := by
  unfold glyph
  repeat' split
  all_goals simp_all

theorem glyph_eq_turret_iff (apart : board.player.place ≠ board.turret.place) (alive : Bool) :
    board.glyph position = (if alive then 'T' else 'x') ↔
      position = board.turret.place ∧ board.turret.isAlive = alive := by
  unfold glyph
  split
  · next player =>
    have elsewhere : position ≠ board.turret.place := player ▸ apart
    cases alive <;> simp [elsewhere]
  · split
    · next turret => cases alive <;> cases board.turret.isAlive <;> simp [turret]
    · next elsewhere => split <;> cases alive <;> simp [elsewhere]

theorem glyph_eq_obstacle_iff (settled : board.Settled) :
    board.glyph position = '#' ↔ board.tile? position = some .obstacle := by
  unfold glyph
  -- The robots hide no obstacle, since their own tiles are empty.
  have player := settled.free
  have turret := settled.turretFree
  repeat' split
  all_goals simp_all

/-- Where two boards of one size have the same character they have the same tile. -/
theorem Settled.tile_eq (here : one.Settled) (there : other.Settled) (size : one.size = other.size)
    (inside : one.Inside position) (same : one.glyph position = other.glyph position) :
    one.tile position = other.tile position := by
  have drawn : one.tile? position = some .obstacle ↔ other.tile? position = some .obstacle := by
    rw [← glyph_eq_obstacle_iff here, ← glyph_eq_obstacle_iff there, same]
  obtain ⟨tile, found, read⟩ := tile_of_inside inside
  obtain ⟨tile', found', read'⟩ : ∃ tile, other.tile? position = some tile ∧
      other.tile position = .ok tile :=
    tile_of_inside (by rwa [Inside, ← size])
  rw [found, found'] at drawn
  rw [read, read']
  cases tile <;> cases tile' <;> simp at drawn ⊢

/-! ## Counting -/

/-- The characters of the frame, and the line break. -/
def frame : List Char := ['┌', '─', '┐', '│', '└', '┘', '\n']

/-- A character that is not one of the frame is drawn once for each position that has it. -/
theorem count_render (board : Board) {character : Char} (inner : character ∉ frame) :
    board.render.toList.count character =
      (positions board.size).countP (board.glyph · == character) := by
  have border : ∀ other ∈ frame, (other == character) = false := by
    intro other member
    exact beq_false_of_ne fun same => inner (same ▸ member)
  simp only [frame, List.forall_mem_cons] at border
  have row : ∀ row, (board.rowGlyphs row).count character =
      (List.range board.size).countP fun column => board.glyph ⟨row, column⟩ == character :=
    fun row => List.countP_map
  rw [render, String.toList_ofList, positions, List.countP_flatMap]
  simp [List.count_flatten, List.count_cons, List.count_replicate, border, row, Function.comp_def]

/-- What is drawn at one position of the board only is drawn once. -/
theorem count_render_eq_one (inside : board.Inside position) {character : Char}
    (inner : character ∉ frame)
    (drawn : ∀ other, board.glyph other = character ↔ other = position) :
    board.render.toList.count character = 1 :=
  calc board.render.toList.count character
    _ = (positions board.size).countP (board.glyph · == character) := board.count_render inner
    _ = (positions board.size).count position := List.countP_congr fun other _ => by simp [drawn]
    _ = 1 := List.count_eq_one_of_mem (nodup_positions _) (mem_positions.mpr inside)

/-- What is drawn nowhere on the board is not in its picture. -/
theorem count_render_eq_zero {character : Char} (inner : character ∉ frame)
    (missing : ∀ position, board.glyph position ≠ character) :
    board.render.toList.count character = 0 := by
  rw [board.count_render inner, List.countP_eq_zero]
  intro position _
  simp [missing]

/-- Of the two characters for the turret the one is drawn, once, that says whether it is alive. -/
theorem Settled.count_turret (settled : board.Settled) (alive : Bool) :
    board.render.toList.count (if alive then 'T' else 'x') = if board.turret.isAlive = alive then
      1 else 0 := by
  have inner : (if alive then 'T' else 'x') ∉ frame := by cases alive <;> decide
  by_cases same : board.turret.isAlive = alive
  · rw [if_pos same]
    exact count_render_eq_one settled.turretInside inner fun position => by
      rw [glyph_eq_turret_iff settled.apart]
      exact and_iff_left same
  · rw [if_neg same]
    exact count_render_eq_zero inner fun position drawn =>
      same ((glyph_eq_turret_iff settled.apart alive).mp drawn).2

/-- For boards that were dealt and on which things were then done:
* equal pictures show boards of one size, with the robots at the same places, with the turret alive
  on both or on neither, and with the same tiles;
* a picture has two lines more than the board has rows, and each has two characters more than the
  board has columns;
* the player is drawn once, and so is the turret, by one of its two characters. -/
theorem render_determines {one other : Board} (reached : one.Reached) (also : other.Reached) :
    (one.render = other.render →
      one.size = other.size ∧ one.player.place = other.player.place ∧
        one.turret.place = other.turret.place ∧ one.turret.isAlive = other.turret.isAlive ∧
        ∀ position, one.Inside position → one.tile position = other.tile position) ∧
    ((one.render.toList.splitOn '\n').length = one.size + 2 ∧
      ∀ line ∈ one.render.toList.splitOn '\n', line.length = one.size + 2) ∧
    one.render.toList.count 'R' = 1 ∧
      one.render.toList.count 'T' + one.render.toList.count 'x' = 1 := by
  have here := reached.settled
  have there := also.settled
  refine ⟨fun same => ?_, ?_, ?_, ?_⟩
  · obtain ⟨size, glyphs⟩ := glyph_eq_of_render_eq same
    -- What one picture shows where a robot stands, the other shows there too.
    have player : one.player.place = other.player.place := by
      have drawn := glyphs _ here.inside
      rw [glyph_eq_player_iff.mpr rfl] at drawn
      exact glyph_eq_player_iff.mp drawn.symm
    have turret : one.turret.place = other.turret.place ∧
        other.turret.isAlive = one.turret.isAlive := by
      have drawn := glyphs _ here.turretInside
      rw [(glyph_eq_turret_iff here.apart _).mpr ⟨rfl, rfl⟩] at drawn
      exact (glyph_eq_turret_iff there.apart _).mp drawn.symm
    exact ⟨size, player, turret.1, turret.2.symm, fun position inside =>
      here.tile_eq there size inside (glyphs position inside)⟩
  · rw [splitOn_render]
    exact ⟨one.length_lines, one.length_of_mem_lines⟩
  · exact count_render_eq_one here.inside (by decide) fun position => glyph_eq_player_iff
  · have living := here.count_turret true
    have destroyed := here.count_turret false
    cases alive : one.turret.isAlive <;> simp_all

/-- The player goes to another tile, uses a shot there and comes back. The picture is the same as
before. -/
theorem render_determines_back :
    ∃ board, deal ⟨3, 2⟩ (List.replicate · 0) = .ok board ∧
      (board.afterAll [.act (.move .downRight), .act (.shoot .downLeft),
        .act (.move .upLeft)]).player ≠ board.player ∧
      (board.afterAll [.act (.move .downRight), .act (.shoot .downLeft),
        .act (.move .upLeft)]).render = board.render ∧
      (board.afterAll [.act (.move .downRight), .act (.shoot .downLeft),
        .act (.move .upLeft)]).player.place = board.player.place ∧
      (board.afterAll [.act (.move .downRight), .act (.shoot .downLeft),
        .act (.move .upLeft)]).tile ⟨1, 1⟩ = board.tile ⟨1, 1⟩ ∧
      (board.render.toList.splitOn '\n').length = 5 ∧ board.render.toList.count 'R' = 1 := by
  have dealt : deal ⟨3, 2⟩ (List.replicate · 0) =
      .ok ((bare 3 ⟨0, 1⟩ ⟨0, 2⟩).blockAll [⟨1, 0⟩, ⟨1, 1⟩]) := rfl
  have start : ((bare 3 ⟨0, 1⟩ ⟨0, 2⟩).blockAll [⟨1, 0⟩, ⟨1, 1⟩]).Reached :=
    ⟨_, _, _, [], dealt, rfl⟩
  have same : (((bare 3 ⟨0, 1⟩ ⟨0, 2⟩).blockAll [⟨1, 0⟩, ⟨1, 1⟩]).afterAll
      [.act (.move .downRight), .act (.shoot .downLeft), .act (.move .upLeft)]).render =
      ((bare 3 ⟨0, 1⟩ ⟨0, 2⟩).blockAll [⟨1, 0⟩, ⟨1, 1⟩]).render := by decide +kernel
  obtain ⟨-, player, -, -, tiles⟩ :=
    (render_determines ⟨_, _, _, _, dealt, rfl⟩ start).1 same
  obtain ⟨-, ⟨lines, -⟩, drawn, -⟩ := render_determines start start
  exact ⟨_, dealt, by decide +kernel, same, player, tiles ⟨1, 1⟩ (by decide +kernel),
    lines, drawn⟩

end RobotScript.Duel.Board
