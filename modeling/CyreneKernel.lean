import CyreneKernel.Authority.OperationLifecycle
import CyreneKernel.Authority.ScanCompleteness
import CyreneKernel.Journal.Processes
import CyreneKernel.Authority.Restarts
import CyreneKernel.Authority.Convergence
import CyreneKernel.Authority.Retry
import CyreneKernel.Fabric.Renewal
import CyreneKernel.Control.AcquireOnce
import CyreneKernel.Control.LiveInstances
import CyreneKernel.Control.Classification
import CyreneKernel.Session.Durable
import CyreneKernel.Control.Binding
import CyreneKernel.Sandboxd.Confinement
import CyreneKernel.Sandboxd.Recovery
import CyreneKernel.Agent.Staging
import CyreneKernel.Maintenance.Generation
import CyreneKernel.Product.Selectors
import CyreneKernel.Maintenance.Durability
import CyreneKernel.Connector.Catalog
