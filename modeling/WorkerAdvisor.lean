import WorkerAdvisor.Analysis
import WorkerAdvisor.Report
import WorkerAdvisor.Concept.Desk
import WorkerAdvisor.Concept.Shipped
import WorkerAdvisor.Resource
import WorkerAdvisor.Assistant.Session
import WorkerAdvisor.Launch
import WorkerAdvisor.Main
import WorkerAdvisor.Proofs.Access.Exemption
import WorkerAdvisor.Proofs.Access.Presenting
import WorkerAdvisor.Proofs.Analysis.HandlerRules
import WorkerAdvisor.Proofs.Analysis.Joining
import WorkerAdvisor.Proofs.Analysis.ModuleRules
import WorkerAdvisor.Proofs.Analysis.Style
import WorkerAdvisor.Proofs.Concept.Loading
import WorkerAdvisor.Proofs.Concept.LoadOnce
import WorkerAdvisor.Proofs.Concept.Mention
import WorkerAdvisor.Proofs.Concept.Names
import WorkerAdvisor.Proofs.Report.Decoding
import WorkerAdvisor.Proofs.Resource
import WorkerAdvisor.Proofs.Signal.RequestOnly
import WorkerAdvisor.Proofs.Signal.SharedState
import WorkerAdvisor.Proofs.Signal.Words
