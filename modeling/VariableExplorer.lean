import VariableExplorer.Explorer.Written
import VariableExplorer.Handover.Screen
import VariableExplorer.Main
import VariableExplorer.Proofs.Description.PlainData
import VariableExplorer.Proofs.Explorer.Recalling
import VariableExplorer.Proofs.Handover.Bench
import VariableExplorer.Proofs.Kernel.Bounding
import VariableExplorer.Proofs.Kernel.Founding
import VariableExplorer.Proofs.Kernel.Preserving
import VariableExplorer.Proofs.Kernel.Routing
import VariableExplorer.Proofs.Kernel.Siblings
import VariableExplorer.Proofs.Kernel.Tracking
import VariableExplorer.Proofs.Navigation.Composition
import VariableExplorer.Proofs.Navigation.Drilling
import VariableExplorer.Proofs.Navigation.Pieces
import VariableExplorer.Proofs.Remote.Agreement
import VariableExplorer.Proofs.Remote.Closing
import VariableExplorer.Proofs.Remote.Serving
import VariableExplorer.Proofs.Remote.Telling
import VariableExplorer.Proofs.Replica.Course
import VariableExplorer.Proofs.Replica.Gathering
import VariableExplorer.Proofs.Replica.SingleFlight
import VariableExplorer.Proofs.Replica.UpToDate
import VariableExplorer.Proofs.Subscription.Closing
import VariableExplorer.Proofs.Suggestion.Counting
import VariableExplorer.Rehearsal.Notation
import VariableExplorer.Rehearsal.Run
import VariableExplorer.Subscription.Board
