import PropFormula.Command.Announcer
import PropFormula.Main
import PropFormula.Proofs.Conservation
import PropFormula.Proofs.InPlace
import PropFormula.Proofs.Levels
import PropFormula.Proofs.Placement
import PropFormula.Proofs.Reuse
import PropFormula.Proofs.Sources
import PropFormula.Proofs.Testing
import PropFormula.Workbench
import PropFormula.Proofs.RootOperator
import PropFormula.Proofs.Spacing
import PropFormula.Proofs.Substitution
import PropFormula.Proofs.Reached
import PropFormula.Proofs.HandBuilt
import PropFormula.Proofs.Unexpected
import PropFormula.Proofs.Faults
import PropFormula.Proofs.ClauseReading
import PropFormula.Proofs.Separators
import PropFormula.Proofs.ByteOrder
import PropFormula.Proofs.VariableList
import PropFormula.Proofs.StackShape
import PropFormula.Proofs.Reporting
import PropFormula.Proofs.Messages
import PropFormula.Proofs.Quotation
import PropFormula.Proofs.RuleOrder
import PropFormula.Proofs.Positions
import PropFormula.Proofs.KeptApart
