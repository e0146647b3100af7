import RobotScript.Main
import RobotScript.Proofs.Grammar
import RobotScript.Proofs.Replay
import RobotScript.Proofs.Grammar.Expression
import RobotScript.Proofs.Grammar.Item
import RobotScript.Proofs.Layout
import RobotScript.Proofs.Token
import RobotScript.Proofs.Grammar.Parse
import RobotScript.Proofs.Reading
import RobotScript.Proofs.Wiring
import RobotScript.Proofs.Meaning
import RobotScript.Proofs.Session.Conversation
import RobotScript.Proofs.Placement
import RobotScript.Proofs.Simulation
import RobotScript.Proofs.Effect
import RobotScript.Proofs.Session.Rounds
import RobotScript.Proofs.Session.Consistency
import RobotScript.Proofs.Session.Restart
import RobotScript.Proofs.Session.Limit
import RobotScript.Proofs.Faults
import RobotScript.Proofs.Session.Trail
import RobotScript.Proofs.Renaming
import RobotScript.Proofs.Session.Answers
import RobotScript.Proofs.Session.Loops
import RobotScript.Proofs.Session.Renaming
import RobotScript.Proofs.Duel.Ray
import RobotScript.Proofs.Duel.Combat
import RobotScript.Proofs.Duel.Sight
import RobotScript.Proofs.Duel.Colour
import RobotScript.Proofs.Duel.Setup
import RobotScript.Proofs.Duel.Safety
import RobotScript.Proofs.Duel.Match
import RobotScript.Proofs.Token.Scan
import RobotScript.Proofs.Token.Segments
import RobotScript.Proofs.Grammar.Spelling
import RobotScript.Proofs.Walk
import RobotScript.Proofs.Walk.Reading
import RobotScript.Proofs.Walk.Frames
import RobotScript.Proofs.Walk.Safety
import RobotScript.Proofs.Strays.Lines
import RobotScript.Proofs.Duel.Accounts
import RobotScript.Proofs.Duel.Nearest
import RobotScript.Proofs.Duel.Picture
import RobotScript.Proofs.Occurrence
import RobotScript.Proofs.Session.Aim
import RobotScript.Proofs.Evaluation
import RobotScript.Proofs.Names
import RobotScript.Proofs.Decimal.Exact
import RobotScript.Proofs.Numerals
