import CoeffectSolver.Main
import CoeffectSolver.Session
import CoeffectSolver.Proofs.Iteration
import CoeffectSolver.Proofs.Names.NameMap
import CoeffectSolver.Proofs.Names.Partition
import CoeffectSolver.Proofs.Names.Closure
import CoeffectSolver.Proofs.Term.Likeness
import CoeffectSolver.Proofs.Term.Erasure
import CoeffectSolver.Proofs.Term.Parts
import CoeffectSolver.Proofs.Term.Text
import CoeffectSolver.Proofs.Term.Grouping
import CoeffectSolver.Proofs.Term.Distinction
import CoeffectSolver.Proofs.Unification.Acyclicity
import CoeffectSolver.Proofs.Unification.Transition
import CoeffectSolver.Proofs.Unification.Solutions
import CoeffectSolver.Proofs.Unification.Correctness
import CoeffectSolver.Proofs.Unification.NormalForm
import CoeffectSolver.Proofs.Unification.Gaps
import CoeffectSolver.Proofs.Unification.Agreement
import CoeffectSolver.Proofs.Unification.Annotations
import CoeffectSolver.Proofs.Unification.Resolution
import CoeffectSolver.Proofs.Unification.Termination
import CoeffectSolver.Proofs.Unification.Recursion
import CoeffectSolver.Proofs.Unification.Blame
import CoeffectSolver.Proofs.Unification.Renaming
import CoeffectSolver.Proofs.Unification.Capture
import CoeffectSolver.Proofs.Unification.Cycles
import CoeffectSolver.Proofs.Analysis.Sweep
import CoeffectSolver.Proofs.Analysis.Dependence
import CoeffectSolver.Proofs.Analysis.Dataflow.Satisfaction
import CoeffectSolver.Proofs.Analysis.Dataflow.Minimality
import CoeffectSolver.Proofs.Analysis.Implicit.Satisfaction
import CoeffectSolver.Proofs.Analysis.Implicit.Display
import CoeffectSolver.Proofs.Analysis.Implicit.LeastSolution
import CoeffectSolver.Proofs.Analysis.Implicit.Reordering
import CoeffectSolver.Proofs.Analysis.Convergence
import CoeffectSolver.Proofs.Analysis.Equivalents
import CoeffectSolver.Proofs.Analysis.Faults
import CoeffectSolver.Proofs.Checking.Identities
import CoeffectSolver.Proofs.Checking.Normalisation
import CoeffectSolver.Proofs.Problem.Decoding
import CoeffectSolver.Proofs.Problem.Revision
import CoeffectSolver.Proofs.Problem.Encoding
